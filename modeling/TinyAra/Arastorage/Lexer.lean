/-
# Arastorage.Lexer -- the AQL lexer

`aql_lexer.c` reads a C string one token at a time.  `lexer_next` skips blanks, remembers the
start of the token in `prev_pos` (where `lexer_rewind` goes back to: one token, never two), and
reads a quoted string, a number (`strtol`), or a run of bytes up to a separator. A run is a
keyword when the table has it, case ignored, and an identifier otherwise. The separators are
only `#.;,()` and blanks, so `a=1` is one identifier and `a = 1` three tokens; `-1` is a number
and `- 1` a minus sign and a number.

The string is a byte list without its NUL; a token's value (`*lexer->value`) is carried by the
token.  `DB_FEATURE_FLOATS` is off, so no float is read.
-/
import Mathlib

namespace TinyAra.Arastorage

set_option autoImplicit false

/-- `token_t`, with the value `lexer_next` stores for a number, a string or an identifier. -/
inductive Token
  | «end»
  | leftParen
  | rightParen
  | comma
  | equal
  | gt
  | lt
  | dot
  | add
  | sub
  | mul
  | div
  | comment
  | geq
  | leq
  | notEqual
  | assign
  | or
  | is
  | on
  | «in»
  | all
  | and
  | not
  | sum
  | max
  | min
  | int
  | into
  | «from»
  | mean
  | join
  | long
  | type
  | «where»
  | count
  | index
  | insert
  | select
  | remove
  | create
  | median
  | domain
  | string
  | inline
  | remain
  | project
  | relation
  | attribute
  | bplustree
  | integerValue (l : Int)
  | stringValue (s : List UInt8)
  | identifier (name : List UInt8)
  | none
  deriving DecidableEq, Repr

/-- The bytes of an ASCII text. -/
def bytes (text : String) : List UInt8 := text.toList.map fun c => c.toNat.toUInt8

/-- `keywords[]`, by length and then by expected frequency. -/
def keywords : List (List UInt8 × Token) :=
  [(bytes ";", .«end»), (bytes "(", .leftParen), (bytes ")", .rightParen), (bytes ",", .comma),
    (bytes "=", .equal), (bytes ">", .gt), (bytes "<", .lt), (bytes ".", .dot), (bytes "+", .add),
    (bytes "-", .sub), (bytes "*", .mul), (bytes "/", .div), (bytes "#", .comment),
    (bytes ">=", .geq), (bytes "<=", .leq), (bytes "<>", .notEqual), (bytes "<-", .assign),
    (bytes "OR", .or), (bytes "IS", .is), (bytes "ON", .on), (bytes "IN", .«in»),
    (bytes "ALL", .all), (bytes "AND", .and), (bytes "NOT", .not), (bytes "SUM", .sum),
    (bytes "MAX", .max), (bytes "MIN", .min), (bytes "INT", .int),
    (bytes "INTO", .into), (bytes "FROM", .«from»), (bytes "MEAN", .mean), (bytes "JOIN", .join),
    (bytes "LONG", .long), (bytes "TYPE", .type),
    (bytes "WHERE", .«where»), (bytes "COUNT", .count), (bytes "INDEX", .index),
    (bytes "INSERT", .insert), (bytes "SELECT", .select), (bytes "REMOVE", .remove),
    (bytes "CREATE", .create), (bytes "MEDIAN", .median), (bytes "DOMAIN", .domain),
    (bytes "STRING", .string), (bytes "INLINE", .inline), (bytes "REMAIN", .remain),
    (bytes "PROJECT", .project), (bytes "RELATION", .relation),
    (bytes "ATTRIBUTE", .attribute), (bytes "BPLUSTREE", .bplustree)]

/-- `skip_hint[]`: where the keywords of each length start. -/
def skipHint : List Nat := [0, 13, 21, 28, 34, 37, 46, 47, 48]

/-- `separators[]`. -/
def separators : List UInt8 := bytes "#.;,() \t\n"

/-- The blanks `lexer_next` skips. -/
def blanks : List UInt8 := bytes " \t\n"

def toLower (b : UInt8) : UInt8 := if 65 ≤ b ∧ b ≤ 90 then b + 32 else b

def isDigit (b : UInt8) : Bool := 48 ≤ b && b ≤ 57

def longMin : Int := -2 ^ 31
def longMax : Int := 2 ^ 31 - 1

/-- `strncasecmp(keyword, string, length) == 0` for a keyword of `length` bytes. -/
def strncasecmpEq (keyword string : List UInt8) (length : Nat) : Bool :=
  (keyword.take length).map toLower = (string.take length).map toLower

/-- `get_token_id(string, length)`: the keyword of that length the string starts with. -/
def getTokenId (string : List UInt8) (length : Nat) : Token :=
  if skipHint.length < length || length < 1 then .none
  else
    let start := skipHint.getD (length - 1) 0
    let stop := if skipHint.length = length then keywords.length else skipHint.getD length 0
    match ((keywords.drop start).take (stop - start)).find? (strncasecmpEq ·.1 string length) with
    | some keyword => keyword.2
    | none => .none

/-- `strtol(s, &end, 10)` at a digit, or at a minus sign before one: the value, clamped to
`[LONG_MIN, LONG_MAX]` as on `ERANGE`, and the bytes after the digits. -/
def strtol (s : List UInt8) : Int × List UInt8 :=
  let (negative, s) := match s with
    | 45 :: rest => (true, rest)
    | _ => (false, s)
  let magnitude : Nat := (s.takeWhile isDigit).foldl (fun n b => 10 * n + (b.toNat - 48)) 0
  let value : Int := if negative then -(magnitude : Int) else magnitude
  (max longMin (min longMax value), s.dropWhile isDigit)

/-- `lexer_t`: the rest of the string, `prev_pos`, and the last token read. -/
structure Lexer where
  input : List UInt8
  prevPos : List UInt8
  token : Token
  deriving DecidableEq, Repr

/-- `next_real(lexer, s)`.  `strtol` sets `errno` only on overflow, with a value that is not
zero, so the check for a failed conversion never fires here. -/
def nextReal (lexer : Lexer) (s : List UInt8) : Int × Lexer :=
  let (value, rest) := strtol s
  (1, { lexer with token := .integerValue value, input := rest })

/-- `next_string(lexer, s)`, after the opening quote: without a closing one the token stays
NONE and the input where it was. -/
def nextString (lexer : Lexer) (s : List UInt8) : Int × Lexer :=
  if 39 ∈ s then
    let length := s.idxOf 39
    (1, { lexer with token := .stringValue (s.take length), input := s.drop (length + 1) })
  else (-1, lexer)

/-- `next_token(lexer, s)`: the bytes up to a separator, or one separator. -/
def nextToken (lexer : Lexer) (s : List UInt8) : Int × Lexer :=
  let length := (s.takeWhile (· ∉ separators)).length
  let length := if length = 0 then 1 else length
  let token := getTokenId s length
  if token ≠ .none then (1, { lexer with token, input := s.drop length })
  else (1, { lexer with token := .identifier (s.take length), input := s.drop length })

def lexerNext (lexer : Lexer) : Int × Lexer :=
  let s := lexer.input.dropWhile (· ∈ blanks)
  let lexer := { lexer with token := .none, prevPos := s }
  match s with
  | [] => (0, lexer)
  | 39 :: rest => nextString lexer rest
  | b :: rest =>
    if isDigit b || (b = 45 && (rest.head?.map isDigit).getD false) then nextReal lexer s
    else nextToken lexer s

def lexerRewind (lexer : Lexer) : Lexer := { lexer with input := lexer.prevPos }

end TinyAra.Arastorage
