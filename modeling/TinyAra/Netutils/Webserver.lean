import Mathlib

/-!
# The web server's request reader

`apps/netutils/webserver`: `http_recv_and_handle_request` reads a request with
`recv` into one buffer and calls `http_parse_message` after each piece, which
resumes a state machine (request line, header lines, body) kept in the caller.
The helpers are `http_find_first_crlf`, `http_separate_header` and
`http_separate_keyvalue` of http_string_util.c.

Buffers are maps from offsets to characters, written in place as the C code
writes them; the C string at an offset is read up to its first NUL. A write
past the end of `url`, `key`, `value` or the entity buffer is undefined
behaviour and stops the run (`none`), as does a `while (!process_finish)` that
never ends (fuel).

`http_parse_message` is handed the length of the latest piece, not of the
buffer, and it reports the request read whenever the request line has no CRLF
yet; a request line split between two pieces therefore ends the read after the
first piece with no method, and the request is refused
(`split_request_line_refused`).
-/

namespace TinyAra.Netutils.Webserver

set_option autoImplicit false

def httpOk : Int := 0
def httpError : Int := -1
def httpMethodUnknown : Int := -1
def httpMethodGet : Int := 0
def httpMethodPut : Int := 1
def httpMethodPost : Int := 2
def httpMethodDelete : Int := 3
def httpHttpVersionUnknown : Nat := 0
def httpHttpVersion09 : Nat := 9
def httpHttpVersion10 : Nat := 10
def httpHttpVersion11 : Nat := 11
def httpContentLength : Nat := 0
def httpChunkedEncoding : Nat := 1
def httpConfMaxRequestLength : Nat := 2048
def httpConfMaxRequestHeaderUrlLength : Nat := 128
def httpConfMaxKeyLength : Nat := 32
def httpConfMaxValueLength : Nat := 256
def httpConfMaxEntityLength : Nat := 2048

abbrev Buffer := Nat → Char

def Buffer.zero : Buffer := fun _ => '\x00'

def Buffer.writeList (b : Buffer) (off : Nat) (cs : List Char) : Buffer :=
  fun i => if off ≤ i ∧ i < off + cs.length then cs.getD (i - off) '\x00' else b i

/-- The C string at offset `k` of a buffer of `size` bytes. -/
def cstring (b : Buffer) (size k : Nat) : List Char :=
  ((List.range' k (size - k)).map b).takeWhile (· ≠ '\x00')

/-- `strncpy(dst, src, n)`: `src` and then NULs up to `n` characters. -/
def strncpy (dst : Buffer) (src : List Char) (n : Nat) : Buffer :=
  fun i => if i < n then src.getD i '\x00' else dst i

def atoi (s : List Char) : Int :=
  let s := s.dropWhile (· = ' ')
  let (neg, s) := match s with
    | '-' :: rest => (true, rest)
    | '+' :: rest => (false, rest)
    | _ => (false, s)
  let n := (s.takeWhile Char.isDigit).foldl (fun n c => 10 * n + (c.toNat - '0'.toNat)) 0
  if neg then -(n : Int) else n

/-- `http_find_first_crlf(src, len, start)`: the offset of the first CR of a CRLF
whose LF lies in `(start, len)`, or `-1`. -/
def httpFindFirstCrlf (src : Buffer) (len start : Int) : Int :=
  match (List.range' (start + 1).toNat (len - (start + 1)).toNat).find?
      (fun i => src i = '\n' ∧ src (i - 1) = '\r') with
  | some i => i - 1
  | none => -1

/-- `http_separate_header`: the method, the `url` buffer and the version. With
three spaces or more it stops after resetting the method and `url[0]`; a URL
length out of `url`'s bounds makes `strncpy` overrun it (`none`). -/
def httpSeparateHeader (src : List Char) (url : Buffer) : Option (Int × Buffer × Nat) :=
  let url := Function.update url 0 '\x00'
  let divide := (List.range src.length).filter (src[·]? = some ' ')
  if divide.length ≥ 3 then some (httpMethodUnknown, url, httpHttpVersionUnknown)
  else
    let method :=
      if "GET".toList.isPrefixOf src then httpMethodGet
      else if "PUT".toList.isPrefixOf src then httpMethodPut
      else if "POST".toList.isPrefixOf src then httpMethodPost
      else if "DELETE".toList.isPrefixOf src then httpMethodDelete
      else httpMethodUnknown
    let urlStart := divide.getD 0 0 + 1
    let urlLength : Int := divide.getD 1 0 - urlStart
    let rest := src.drop (divide.getD 1 0 + 1)
    let httpver :=
      if "HTTP/1.1".toList.isPrefixOf rest then httpHttpVersion11
      else if "HTTP/1.0".toList.isPrefixOf rest then httpHttpVersion10
      else if "HTTP/0.9".toList.isPrefixOf rest then httpHttpVersion09
      else httpHttpVersionUnknown
    if urlLength < 0 ∨ httpConfMaxRequestHeaderUrlLength < urlLength then none
    else some (method, strncpy url (src.drop urlStart) urlLength.toNat, httpver)

/-- `http_separate_keyvalue`: the key up to `':'` (left unterminated when there
is none) and the value from two characters after it, into the caller's `key`
and `value` buffers; a write past either is `none`. -/
def httpSeparateKeyvalue (src : List Char) (key value : Buffer) : Option (Buffer × Buffer) :=
  let colon := src.findIdx? (· = ':')
  let keyChars := src.take (colon.getD src.length)
  let key := key.writeList 0 keyChars
  let key := match colon with
    | some i => Function.update key i '\x00'
    | none => key
  let valueChars := src.drop (match colon with | some i => i + 2 | none => 0)
  if httpConfMaxKeyLength < keyChars.length + (if colon.isSome then 1 else 0) ∨
      httpConfMaxValueLength ≤ valueChars.length then none
  else some (key, Function.update (value.writeList 0 valueChars) valueChars.length '\x00')

/-- `struct http_message_len_t`. -/
structure MessageLen where
  chunkedRemain : Int
  sentenceStart : Int
  messageLen : Int
  entityLen : Int
  contentLen : Int

/-- `HTTP_REQUEST_HEADER`, `HTTP_REQUEST_PARAMETERS`, `HTTP_REQUEST_BODY`. -/
inductive RequestState where
  | header
  | parameters
  | body
  deriving DecidableEq, Repr

/-- Where `*body` points. -/
inductive BodyPtr where
  | null
  | buf (offset : Int)
  | entity
  deriving DecidableEq, Repr

/-- What `http_parse_message` reads and writes through its pointers, for the web
server (`client` given, `response` NULL). -/
structure Parse where
  buf : Buffer
  method : Int
  url : Buffer
  body : BodyPtr
  enc : Nat
  state : RequestState
  len : MessageLen
  params : List (List Char × List Char)
  entity : Buffer
  wsState : Nat

/-- The locals of one call of `http_parse_message` that live across its loop. -/
structure Locals where
  sentenceEnd : Int
  key : Buffer
  value : Buffer
  processFinish : Bool
  readFinish : Bool

/-- A round of the loop either goes on or makes the call return. -/
abbrev Round := Option ((Parse × Locals) ⊕ (Parse × Int))

def headerRound (bufLen : Int) (p : Parse) (l : Locals) : Round :=
  let len := { p.len with sentenceStart := 0, messageLen := 0 }
  let sentenceEnd := httpFindFirstCrlf p.buf bufLen len.sentenceStart
  if sentenceEnd ≠ -1 then
    let buf := Function.update p.buf sentenceEnd.toNat '\x00'
    (httpSeparateHeader (cstring buf httpConfMaxRequestLength 0) p.url).map fun (method, url, _) =>
      .inl ({ p with buf := buf, method := method, url := url, state := .parameters,
                     len := { len with sentenceStart := sentenceEnd + 2 } },
            { l with sentenceEnd := sentenceEnd })
  else
    -- no CRLF in what was handed over: the read is taken as finished
    some (.inl ({ p with len := len },
      { l with sentenceEnd := sentenceEnd, readFinish := true, processFinish := true }))

/-- A header line just read, with `Content-Length` and `Transfer-Encoding: chunked`
taken note of and the WebSocket upgrade headers counted. -/
def addParameter (p : Parse) (key value : List Char) : Parse :=
  let ws := p.wsState + (if key = "Connection".toList ∧ value = "Upgrade".toList then 1 else 0)
    + (if key = "Upgrade".toList ∧ value = "websocket".toList then 1 else 0)
  let len := if key = "Content-Length".toList then { p.len with contentLen := atoi value } else p.len
  let p := { p with params := p.params ++ [(key.take (httpConfMaxKeyLength - 1),
      value.take (httpConfMaxValueLength - 1))], wsState := ws, len := len }
  if key = "Transfer-Encoding".toList ∧ value = "chunked".toList then
    { p with len := { p.len with chunkedRemain := 0, entityLen := 0 }, entity := Buffer.zero,
             enc := httpChunkedEncoding, body := .entity }
  else p

/-- A header line, or the empty line that ends the headers. -/
def parametersRound (bufLen : Int) (p : Parse) (l : Locals) : Round :=
  let sentenceEnd := httpFindFirstCrlf p.buf bufLen p.len.sentenceStart
  if sentenceEnd ≥ 0 then
    let buf := Function.update p.buf sentenceEnd.toNat '\x00'
    let line := cstring buf httpConfMaxRequestLength p.len.sentenceStart.toNat
    let next (p : Parse) : Parse := { p with len := { p.len with sentenceStart := sentenceEnd + 2 } }
    if line.length > 0 then
      (httpSeparateKeyvalue line l.key l.value).map fun (key, value) =>
        .inl (next (addParameter { p with buf := buf }
            (cstring key httpConfMaxKeyLength 0) (cstring value httpConfMaxValueLength 0)),
          { l with sentenceEnd := sentenceEnd, key := key, value := value })
    else some (.inl (next { p with buf := buf, state := .body }, { l with sentenceEnd := sentenceEnd }))
  else some (.inl (p, { l with sentenceEnd := sentenceEnd, processFinish := true }))

def contentLengthRound (bufLen : Int) (p : Parse) (l : Locals) : Round :=
  let body := if p.len.messageLen = 0 then BodyPtr.buf p.len.sentenceStart else p.body
  if bufLen - p.len.sentenceStart + p.len.messageLen = p.len.contentLen then
    let pos := bufLen + p.len.messageLen
    if pos < 0 ∨ httpConfMaxRequestLength ≤ pos then none
    else some (.inl ({ p with buf := Function.update p.buf pos.toNat '\x00', body := body },
      { l with readFinish := true, processFinish := true }))
  else
    some (.inl ({ p with body := body, len := { p.len with messageLen := p.len.messageLen + bufLen } },
      { l with processFinish := true }))

/-- The value of one chunk-size digit, as the code computes it (lower-case hex
only). -/
def hexDigit (c : Char) : Int :=
  if c.toNat > '9'.toNat then (c.toNat : Int) - 'a'.toNat + 10 else (c.toNat : Int) - '0'.toNat

/-- The chunk size between `start` and the CR at `sentenceEnd`. -/
def chunkSize (buf : Buffer) (start sentenceEnd : Int) : Int :=
  ((List.range (sentenceEnd - start).toNat).map fun (k : Nat) =>
    hexDigit (buf (sentenceEnd - (k + 1)).toNat) * 16 ^ k).sum

/-- The copy loop of a chunk into the entity buffer; `i` counts the characters
copied. It returns early when the received bytes run out. -/
def copyChunk (bufLen : Int) (p : Parse) : Nat → Nat → Option (Parse ⊕ (Parse × Nat))
  | 0, i => some (.inr (p, i))
  | n + 1, i =>
    if p.len.chunkedRemain ≤ 0 then some (.inr (p, i))
    else if p.len.sentenceStart ≥ bufLen + p.len.messageLen then
      some (.inl { p with len := { p.len with messageLen := p.len.sentenceStart,
                                              entityLen := p.len.entityLen + i } })
    else
      let pos := i + p.len.entityLen
      if pos < 0 ∨ httpConfMaxEntityLength ≤ pos then none
      else
        let entity := Function.update p.entity pos.toNat (p.buf p.len.sentenceStart.toNat)
        copyChunk bufLen
          { p with
            entity := entity
            len := { p.len with
              sentenceStart := p.len.sentenceStart + 1
              chunkedRemain := p.len.chunkedRemain - 1 } } n (i + 1)

/-- A chunked body: the size line of a new chunk, its data, and the line after it. -/
def chunkedRound (bufLen : Int) (p : Parse) (l : Locals) : Round :=
  let sized : Option (Parse × Locals) :=
    if p.len.chunkedRemain = 0 then
      let p := { p with len := { p.len with contentLen := 0 } }
      let sentenceEnd := httpFindFirstCrlf p.buf bufLen p.len.sentenceStart
      if sentenceEnd < 0 then none
      else
        let size := chunkSize p.buf p.len.sentenceStart sentenceEnd
        some ({ p with len := { p.len with contentLen := size, chunkedRemain := size,
                                           sentenceStart := sentenceEnd + 2 } },
              { l with sentenceEnd := sentenceEnd })
    else some (p, l)
  match sized with
  | none =>
    -- "Cannot find body": the `break` leaves only the `switch`, and the loop goes round again
    some (.inl ({ p with len := { p.len with contentLen := 0 } },
      { l with sentenceEnd := httpFindFirstCrlf p.buf bufLen p.len.sentenceStart }))
  | some (p, l) =>
    match copyChunk bufLen p p.len.chunkedRemain.toNat 0 with
    | none => none
    | some (.inl p) => some (.inr (p, 0))
    | some (.inr (p, i)) =>
      if p.len.chunkedRemain ≠ 0 then some (.inl (p, l))
      else
        let pos := i + p.len.entityLen
        if pos < 0 ∨ httpConfMaxEntityLength ≤ pos then none
        else
          let p := { p with entity := Function.update p.entity pos.toNat '\x00',
                            len := { p.len with sentenceStart := p.len.sentenceStart + 2 } }
          let sentenceEnd := httpFindFirstCrlf p.buf (bufLen + p.len.messageLen) p.len.sentenceStart
          if sentenceEnd < 0 then some (.inr (p, 1))
          else
            let p := { p with len := { p.len with sentenceStart := sentenceEnd + 2 } }
            let last := p.buf (sentenceEnd - 1).toNat = '0'
            some (.inl (p, { l with sentenceEnd := sentenceEnd, processFinish := last,
                                    readFinish := last }))

def bodyRound (bufLen : Int) (p : Parse) (l : Locals) : Round :=
  if p.len.sentenceStart < 0 ∨ l.sentenceEnd < 0 then
    -- "Wrong sentence arrange": the `break` leaves only the `switch`
    some (.inl (p, l))
  else if p.enc = httpContentLength then contentLengthRound bufLen p l
  else chunkedRound bufLen p l

/-- The `while (!process_finish)` loop of `http_parse_message`. -/
def parseLoop (bufLen : Int) : Nat → Parse → Locals → Option (Parse × Int)
  | 0, _, _ => none
  | fuel + 1, p, l =>
    if l.processFinish then some (p, if l.readFinish then 1 else 0)
    else
      let round := match p.state with
        | .header => headerRound bufLen p l
        | .parameters => parametersRound bufLen p l
        | .body => bodyRound bufLen p l
      match round with
      | none => none
      | some (.inl (p, l)) => parseLoop bufLen fuel p l
      | some (.inr r) => some r

/-- `http_parse_message(buf, buf_len, ...)`: the state after the call and
`read_finish`. -/
def httpParseMessage (fuel : Nat) (p : Parse) (bufLen : Int) : Option (Parse × Int) :=
  parseLoop bufLen fuel p ⟨0, Buffer.zero, Buffer.zero, false, false⟩

/-- The request `http_dispatch_url` is given. -/
structure Request where
  method : Int
  url : List Char
  headers : List (List Char × List Char)
  entity : Option (List Char)
  deriving DecidableEq, Repr

def Parse.request (p : Parse) : Request where
  method := p.method
  url := cstring p.url httpConfMaxRequestHeaderUrlLength 0
  headers := p.params
  entity := match p.body with
    | .null => none
    | .buf off => some (cstring p.buf httpConfMaxRequestLength off.toNat)
    | .entity => some (cstring p.entity httpConfMaxEntityLength 0)

/-- The `while (!read_finish)` loop of `http_recv_and_handle_request`, over the
successive results of `recv`; an empty piece or none left is `recv` returning 0. -/
def recvLoop (fuel : Nat) : List (List Char) → Parse → Nat → Int → Option (Int × Option Request)
  | [], _, _, _ => some (httpError, none)
  | piece :: rest, p, bufLen, remain =>
    if remain ≤ 0 ∨ piece = [] then some (httpError, none)
    else if httpConfMaxRequestLength < bufLen + piece.length then none
    else
      let p := { p with buf := p.buf.writeList bufLen piece }
      -- the length of this piece alone is passed as `buf_len`
      match httpParseMessage fuel p piece.length with
      | none => none
      | some (p, readFinish) =>
        -- `read_finish` is a bool, so its comparison with `HTTP_ERROR` never holds
        if readFinish ≠ 0 then
          if p.method = httpMethodUnknown then some (httpError, none)
          else some (httpOk, some p.request)
        else recvLoop fuel rest p (bufLen + piece.length) (remain - piece.length)

/-- `http_recv_and_handle_request` on the pieces `recv` returns: the result, and
the request dispatched if any. -/
def httpRecvAndHandleRequest (fuel : Nat) (pieces : List (List Char)) :
    Option (Int × Option Request) :=
  recvLoop fuel pieces
    ⟨Buffer.zero, httpMethodUnknown, Buffer.zero, .null, httpContentLength, .header,
      ⟨0, 0, 0, 0, 0⟩, [], Buffer.zero, 0⟩
    0 httpConfMaxRequestLength

/-- `GET / HTTP/1.1`, no headers, no body: in one piece the request is dispatched;
split after `GET / HT` it is refused and nothing is dispatched. -/
theorem split_request_line_refused :
    httpRecvAndHandleRequest 8 ["GET / HTTP/1.1\r\n\r\n".toList] =
        some (httpOk, some ⟨httpMethodGet, ['/'], [], some []⟩) ∧
      httpRecvAndHandleRequest 8 ["GET / HT".toList, "TP/1.1\r\n\r\n".toList] =
        some (httpError, none) := by
  constructor <;> decide

end TinyAra.Netutils.Webserver
