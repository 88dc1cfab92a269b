/-
# Arastorage.Parser -- the AQL parser

`aql_parser.c` is a recursive descent over the tokens of `lexer_next`, one parser per rule, each
returning an `aql_status_t` (`STATUS_OK` is 2, an error is 3 or more).  `PARSE(name)` is
`!AQL_ERROR(parse_name(...))`, 1 or 0; `CONSUME(token)` reads a token and returns
`SYNTAX_ERROR` when it is another. Three places return such a 0 or 1 as a status, which
`AQL_ERROR` then reads as success: `parse_values` (`return PARSE(values)`), `parse_where`
(`RETURN(r)` after a failed comparison) and the `parse_remove`/`parse_create` dispatch, where
only the 0 is checked.  `aql_parse` falls through from `REMAIN` to `STATUS_OK`.

The command is built in `aql_adt_t` by `aql_add_relation`, `aql_add_attribute` and
`aql_add_value` (`aql_adt.c`), and a WHERE clause is laid out in the LVM code
(`Arastorage.LvmCode`).  The heap's answer to each `malloc` of the parse, of the LVM instance
or of a string value's copy, is an input of `aql_parse`.  A refused LVM instance returns
`DB_ALLOCATION_ERROR`, -2, which `AQL_ERROR` reads as success, with no condition set. Each
parser has fuel for the tokens it may read; `none` is a parse that runs out of it.
-/
import TinyAra.Arastorage.Codec
import TinyAra.Arastorage.Lexer
import TinyAra.Arastorage.LvmCode

namespace TinyAra.Arastorage

set_option autoImplicit false

/-! ## The command -/

/-- `aql_status_t`, with the 0 and 1 of `PARSE` and the 255 of `NONE` it is given as well. -/
def statusOk : Int := 2
def syntaxError : Int := 3

/-- `DB_ALLOCATION_ERROR` of `db_result_t`, returned by the parsers as a status. -/
def dbAllocationError : Int := -2

def aqlError (x : Int) : Bool := 3 ≤ x

/-- `PARSE(name)` as the value it is returned as: 1 or 0. -/
def parsed (status : Int) : Int := if aqlError status then 0 else 1

/-- `AQL_TYPE_*`. -/
inductive AqlType
  | none
  | createAttribute
  | createIndex
  | createRelation
  | insert
  | removeAttribute
  | removeIndex
  | removeRelation
  | flush
  | select
  | removeTuples
  deriving DecidableEq, Repr

/-- `AQL_FLAG_AGGREGATE`, `AQL_FLAG_SELECT_ALL` and `AQL_FLAG_ASSIGN`. -/
def aqlFlagAggregate : Nat := 1
def aqlFlagSelectAll : Nat := 2
def aqlFlagAssign : Nat := 4

/-- `aql_aggregator_t`. -/
inductive Aggregator
  | none
  | count
  | sum
  | min
  | max
  | mean
  deriving DecidableEq, Repr

/-- `index_type_t`. -/
inductive IndexType
  | none
  | inline
  | bplustree
  deriving DecidableEq, Repr

def attributeFlagNoStore : Nat := 1

/-- `aql_attribute_t`. -/
structure AqlAttribute where
  domain : Domain
  elementSize : Nat
  flags : Nat
  name : List UInt8
  deriving DecidableEq, Repr

/-- `AQL_RELATION_LIMIT`, `AQL_ATTRIBUTE_LIMIT`, `ATTRIBUTE_NAME_LENGTH`. -/
def aqlRelationLimit : Nat := 3
def aqlAttributeLimit : Nat := 6
def attributeNameLength : Nat := 12

def removeRelation : List UInt8 := bytes "db-rem"

/-- `aql_adt_t`: its arrays, which `aql_clear` does not wipe, and their counts. -/
structure Adt where
  relations : Nat → List UInt8
  relationCount : Nat
  attributes : Nat → AqlAttribute
  attributeCount : Nat
  aggregators : Nat → Aggregator
  values : Nat → AttributeValue
  valueCount : Nat
  indexType : IndexType
  optype : AqlType
  flags : Nat
  lvm : Option LvmInstance

/-- The relations, attributes and values the command holds. -/
def Adt.relationList (adt : Adt) : List (List UInt8) := (List.range adt.relationCount).map adt.relations
def Adt.attributeList (adt : Adt) : List AqlAttribute :=
  (List.range adt.attributeCount).map adt.attributes
def Adt.valueList (adt : Adt) : List AttributeValue := (List.range adt.valueCount).map adt.values

/-- An `aql_adt_t` whose arrays hold zeros, as a static one starts. -/
def Adt.zero : Adt :=
  ⟨fun _ => [], 0, fun _ => ⟨.unspecified, 0, 0, []⟩, 0, fun _ => .none, fun _ => ⟨.unspecified, 0, []⟩, 0,
    .none, .none, 0, none⟩

def aqlClear (adt : Adt) : Adt :=
  { adt with optype := .none, relationCount := 0, attributeCount := 0, valueCount := 0, flags := 0,
             aggregators := fun _ => .none }

/-- The `db_result_t` values `aql_add_attribute` and `aql_add_value` return here: `DB_OK`,
`DB_LIMIT_ERROR` and `DB_TYPE_ERROR`. -/
inductive AddResult
  | ok
  | limitError
  | typeError
  deriving DecidableEq, Repr

/-- `aql_add_relation(adt, rel)`: past `AQL_RELATION_LIMIT - 1` relations the name is dropped. -/
def aqlAddRelation (adt : Adt) (rel : List UInt8) : Adt :=
  if adt.relationCount < aqlRelationLimit - 1 then
    { adt with relations := Function.update adt.relations adt.relationCount rel,
               relationCount := adt.relationCount + 1 }
  else adt

/-- `strncmp(a, b, n) == 0` for C strings without a NUL inside. -/
def strncmpEq (a b : List UInt8) (n : Nat) : Bool := (a ++ [0]).take n = (b ++ [0]).take n

def getAttribute (adt : Adt) (name : List UInt8) : Bool :=
  (List.range adt.attributeCount).any fun i => strncmpEq (adt.attributes i).name name attributeNameLength

/-- `aql_add_attribute(adt, name, domain, element_size, processed_only)`. A name too long for
the slot is refused after the count has taken the slot, whose old contents stay. -/
def aqlAddAttribute (adt : Adt) (name : List UInt8) (domain : Domain) (elementSize : Nat)
    (processedOnly : Bool) : AddResult × Adt :=
  if adt.attributeCount = aqlAttributeLimit then (.limitError, adt)
  else if processedOnly && getAttribute adt name then (.ok, adt)
  else
    let counted := { adt with attributeCount := adt.attributeCount + 1 }
    if name.length + 1 > attributeNameLength + 1 then (.limitError, counted)
    else
      let attr : AqlAttribute :=
        ⟨domain, elementSize % 256, if processedOnly then attributeFlagNoStore else 0, name⟩
      (.ok, { counted with attributes := Function.update adt.attributes adt.attributeCount attr })

/-- `aql_add_value(adt, domain, value_ptr)` for an integer or a string; `granted` is the heap's
answer to the `malloc` of a string's copy. A refused copy leaves the slot taken, with the
string's domain over the slot's old contents. -/
def aqlAddValue (adt : Adt) (value : AttributeValue) (granted : Bool) : AddResult × Adt :=
  if adt.valueCount = aqlAttributeLimit then (.limitError, adt)
  else
    let counted := { adt with valueCount := adt.valueCount + 1 }
    if value.domain = .string ∧ !granted then
      (.typeError, { counted with values := Function.update adt.values adt.valueCount
                                   { adt.values adt.valueCount with domain := .string } })
    else (.ok, { counted with values := Function.update adt.values adt.valueCount value })

/-- `AQL_ADD_AGGREGATE(adt, function, attr)`: the aggregator goes in at the count even when the
attribute is refused. -/
def aqlAddAggregate (adt : Adt) (function : Aggregator) (name : List UInt8) : Adt :=
  (aqlAddAttribute { adt with aggregators := Function.update adt.aggregators adt.attributeCount function }
    name .unspecified 0 false).2

/-! ## Parsing -/

/-- What the parsers read and write: the lexer and the command, with the heap's answer to each
`malloc` of the parse, in order, and the count of those made. -/
structure AqlState where
  lexer : Lexer
  adt : Adt
  heap : Nat → Bool
  allocations : Nat

/-- A parser: `none` when its fuel runs out. -/
abbrev Parse := StateT AqlState Option

/-- `NEXT`; the lexer's own result is never looked at. -/
def next : Parse Unit := modify fun s => { s with lexer := (lexerNext s.lexer).2 }

def rewind : Parse Unit := modify fun s => { s with lexer := lexerRewind s.lexer }

/-- `TOKEN`, with `VALUE`. -/
def token : Parse Token := return (← get).lexer.token

/-- `CONSUME(t)` for a token without a value: whether it was `t`. -/
def consume (t : Token) : Parse Bool := do
  next
  return (← token) = t

/-- `CONSUME(IDENTIFIER)`: the identifier, if it was one. -/
def consumeIdentifier : Parse (Option (List UInt8)) := do
  next
  match ← token with
  | .identifier name => return some name
  | _ => return none

def modifyAdt (f : Adt → Adt) : Parse Unit := modify fun s => { s with adt := f s.adt }

/-- `malloc`: whether the heap grants the next allocation. -/
def malloc : Parse Bool :=
  modifyGet fun s => (s.heap s.allocations, { s with allocations := s.allocations + 1 })

/-- A change of the LVM instance `adt->lvm_instance` points at. -/
def modifyLvm (f : LvmInstance → LvmInstance) : Parse Unit :=
  modifyAdt fun adt => { adt with lvm := adt.lvm.map f }

def onLvm (f : LvmInstance → Nat × LvmInstance) : Parse Nat := do
  match (← get).adt.lvm with
  | some p =>
    let (result, p) := f p
    modifyAdt fun adt => { adt with lvm := some p }
    return result
  | none => failure

def parseCmp : Parse Token := do
  next
  match ← token with
  | .equal | .notEqual | .gt | .lt | .geq | .leq => token
  | _ => return .none

/-- `parse_op(lexer)`: a closing parenthesis counts as one. -/
def parseOp : Parse Token := do
  next
  match ← token with
  | .add | .sub | .mul | .div | .rightParen => token
  | _ => return .none

def parseAggregator : Parse Token := do
  next
  match ← token with
  | .count | .sum | .mean | .max | .min => token
  | _ => return .none

/-- `parse_attributes(adt, lexer)`: an aggregate or an identifier, then a comma and more. -/
def parseAttributes : Nat → Parse Int
  | 0 => failure
  | fuel + 1 => do
    if (← parseAggregator) ≠ .none then
      let function ← match ← token with
        | .count => pure Aggregator.count
        | .sum => pure .sum
        | .mean => pure .mean
        | .max => pure .max
        | .min => pure .min
        | _ => return syntaxError
      unless ← consume .leftParen do return syntaxError
      let some name ← consumeIdentifier | return syntaxError
      modifyAdt fun adt => aqlAddAggregate adt function name
      modifyAdt fun adt => { adt with flags := adt.flags ||| aqlFlagAggregate }
      unless ← consume .rightParen do return syntaxError
    else
      rewind
      let some name ← consumeIdentifier | return syntaxError
      modifyAdt fun adt => (aqlAddAttribute adt name .unspecified 0 false).2
    -- check_more_attributes
    next
    if (← token) = .comma then
      if aqlError (← parseAttributes fuel) then return syntaxError
    else rewind
    return statusOk

def parseRelations : Nat → Parse Int
  | 0 => failure
  | fuel + 1 => do
    let some name ← consumeIdentifier | return syntaxError
    modifyAdt fun adt => aqlAddRelation adt name
    next
    if (← token) = .comma then
      if aqlError (← parseRelations fuel) then return syntaxError
    else rewind
    return statusOk

/-- `parse_values(adt, lexer)`: after a comma it returns `PARSE(values)` itself. -/
def parseValues : Nat → Parse Int
  | 0 => failure
  | fuel + 1 => do
    next
    match ← token with
    | .stringValue s =>
      -- `aql_add_value` copies the string only into a free slot; a refusal is not looked at
      let granted ← if (← get).adt.valueCount = aqlAttributeLimit then pure true else malloc
      modifyAdt fun adt => (aqlAddValue adt ⟨.string, 0, s⟩ granted).2
    | .integerValue l => modifyAdt fun adt => (aqlAddValue adt ⟨.int, l, []⟩ true).2
    | _ => return syntaxError
    next
    if (← token) = .comma then return parsed (← parseValues fuel)
    rewind
    return statusOk

/-- `parse_operand(adt, lexer)`: a string operand is read and nothing is written for it. -/
def parseOperand : Parse Int := do
  next
  match ← token with
  | .identifier name =>
    modifyLvm fun p => lvmSetVariable (lvmRegisterVariable p name).2 name
    modifyAdt fun adt => (aqlAddAttribute adt name .unspecified 0 true).2
  | .stringValue _ => pure ()
  | .integerValue l => modifyLvm fun p => lvmSetLong p l
  | _ => return syntaxError
  return statusOk

def arithOperator : Token → Option Operator
  | .add => some .add
  | .sub => some .sub
  | .mul => some .mul
  | .div => some .div
  | _ => none

mutual

/-- `parse_expr(adt, lexer)`: a parenthesised expression or an operand, then the operators. -/
def parseExpr : Nat → Parse Int
  | 0 => failure
  | fuel + 1 => do
    let savedEnd ← onLvm fun p => (lvmGetEnd p, p)
    next
    if (← token) = .leftParen then
      if aqlError (← parseExpr fuel) then return syntaxError
      unless ← consume .rightParen do return syntaxError
    else
      rewind
      if aqlError (← parseOperand) then return syntaxError
    parseExprLoop fuel savedEnd

/-- The operator loop of `parse_expr`, with `saved_end`. A failed operand is followed by a
whole expression from the token after it. -/
def parseExprLoop : Nat → Nat → Parse Int
  | 0, _ => failure
  | fuel + 1, savedEnd => do
    let op ← parseOp
    if op = .none then
      rewind
      return statusOk
    if op = .rightParen then return statusOk
    if aqlError (← parseOperand) then
      if aqlError (← parseExpr fuel) then return syntaxError
    let savedEnd ← onLvm fun p => lvmShiftForOperator p savedEnd
    let some lvmOp := arithOperator op | return syntaxError
    modifyLvm fun p => lvmSetOp p lvmOp
    let _ ← onLvm fun p => lvmSetEnd p savedEnd
    parseExprLoop fuel savedEnd

end

/-- The relation of a comparison token: `>` is `LVM_GE` and `<` is `LVM_LE`. -/
def relationOperator : Token → Option Operator
  | .gt => some .ge
  | .geq => some .geq
  | .lt => some .le
  | .leq => some .leq
  | .equal => some .eq
  | .notEqual => some .neq
  | _ => none

/-- `parse_comparison(adt, lexer)`: room for the relation, the left expression, the relation
written in the room, and the right expression after the left one. -/
def parseComparison (fuel : Nat) : Parse Int := do
  let savedEnd ← onLvm lvmJumpToOperand
  if aqlError (← parseExpr fuel) then return syntaxError
  let savedEnd ← onLvm fun p => lvmSetEnd p savedEnd
  let rel ← parseCmp
  if rel = .none then return syntaxError
  let some lvmRel := relationOperator rel | return syntaxError
  modifyLvm fun p => lvmSetRelation p lvmRel
  let _ ← onLvm fun p => lvmSetEnd p savedEnd
  if aqlError (← parseExpr fuel) then return syntaxError
  return statusOk

mutual

/-- `parse_where(adt, lexer)`: a comparison, then the connectives. -/
def parseWhere : Nat → Parse Int
  | 0 => failure
  | fuel + 1 => do
    if aqlError (← parseComparison fuel) then return syntaxError
    whereLoop fuel 0

/-- The connective loop of `parse_where`, with `saved_end`, which starts at 0 in every call. -/
def whereLoop : Nat → Nat → Parse Int
  | 0, _ => failure
  | fuel + 1, savedEnd => do
    next
    let connective ← match ← token with
      | .and => pure Operator.and
      | .or => pure .or
      | _ =>
        rewind
        return statusOk
    let savedEnd ← onLvm fun p => lvmShiftForOperator p savedEnd
    modifyLvm fun p => lvmSetRelation p connective
    let _ ← onLvm fun p => lvmSetEnd p savedEnd
    next
    if (← token) = .leftParen then
      if aqlError (← parseWhere fuel) then return syntaxError
      unless ← consume .rightParen do return syntaxError
    else
      rewind
      let r := parsed (← parseComparison fuel)
      if r = 0 then return r
    whereLoop fuel savedEnd

end

/-- The LVM instance the heap has granted, made the condition (`lvm_reset`,
`AQL_SET_CONDITION`). -/
def startCondition : Parse Unit := modifyAdt fun adt => { adt with lvm := some LvmInstance.reset }

/-- The end shared by `parse_select` and `parse_remain`: `FROM`, the relations, and an optional
WHERE clause that must end in `;`. -/
def parseFromWhere (fuel : Nat) : Parse Int := do
  unless ← consume .«from» do return syntaxError
  if aqlError (← parseRelations fuel) then return syntaxError
  next
  if (← token) = .«where» then
    unless ← malloc do return dbAllocationError
    startCondition
    if aqlError (← parseWhere fuel) then
      modifyAdt fun adt => { adt with lvm := none }
      return syntaxError
  else
    rewind
    return statusOk
  unless ← consume .«end» do return syntaxError
  return statusOk

def parseSelect (fuel : Nat) : Parse Int := do
  modifyAdt fun adt => { adt with optype := .select }
  next
  if (← token) = .all then
    modifyAdt fun adt => { adt with flags := adt.flags ||| aqlFlagSelectAll }
  else
    rewind
    if aqlError (← parseAttributes fuel) then return syntaxError
  parseFromWhere fuel

def parseRemain (fuel : Nat) : Parse Int := do
  modifyAdt fun adt => { adt with optype := .flush }
  if aqlError (← parseAttributes fuel) then return syntaxError
  parseFromWhere fuel

def parseInsert (fuel : Nat) : Parse Int := do
  modifyAdt fun adt => { adt with optype := .insert }
  unless ← consume .leftParen do return syntaxError
  if aqlError (← parseValues fuel) then return syntaxError
  unless ← consume .rightParen do return syntaxError
  unless ← consume .into do return syntaxError
  if aqlError (← parseRelations fuel) then return syntaxError
  return statusOk

/-- `relation.attribute`, as `parse_remove_attribute`, `parse_remove_index` and
`parse_create_index` read it. -/
def parseQualified (optype : AqlType) : Parse Int := do
  modifyAdt fun adt => { adt with optype }
  let some rel ← consumeIdentifier | return syntaxError
  modifyAdt fun adt => aqlAddRelation adt rel
  unless ← consume .dot do return syntaxError
  let some name ← consumeIdentifier | return syntaxError
  modifyAdt fun adt => (aqlAddAttribute adt name .unspecified 0 false).2
  return statusOk

def parseRemoveAttribute : Parse Int := parseQualified .removeAttribute

def parseRemoveIndex : Parse Int := parseQualified .removeIndex

/-- `parse_remove_from(adt, lexer)`: on a failed condition the instance is freed but
`adt->lvm_instance` still points at it. -/
def parseRemoveFrom (fuel : Nat) : Parse Int := do
  modifyAdt fun adt => { adt with optype := .removeTuples, flags := adt.flags ||| aqlFlagAssign }
  modifyAdt fun adt => aqlAddRelation adt removeRelation
  let some rel ← consumeIdentifier | return syntaxError
  modifyAdt fun adt => aqlAddRelation adt rel
  unless ← consume .«where» do return syntaxError
  unless ← malloc do return dbAllocationError
  startCondition
  if aqlError (← parseWhere fuel) then return syntaxError
  return statusOk

def parseRemoveRelation : Parse Int := do
  modifyAdt fun adt => { adt with optype := .removeRelation }
  let some rel ← consumeIdentifier | return syntaxError
  modifyAdt fun adt => aqlAddRelation adt rel
  return statusOk

/-- `parse_remove(adt, lexer)`: `r` is the 0 or 1 of `PARSE`. -/
def parseRemove (fuel : Nat) : Parse Int := do
  next
  let r ← match ← token with
    | .attribute => pure (parsed (← parseRemoveAttribute))
    | .«from» => pure (parsed (← parseRemoveFrom fuel))
    | .index => pure (parsed (← parseRemoveIndex))
    | .relation => pure (parsed (← parseRemoveRelation))
    | _ => return syntaxError
  if r = 0 then return syntaxError
  unless ← consume .«end» do return syntaxError
  return statusOk

def parseIndexType : Parse Token := do
  next
  match ← token with
  | .inline | .bplustree => token
  | _ => return .none

def parseCreateIndex : Parse Int := do
  if aqlError (← parseQualified .createIndex) then return syntaxError
  unless ← consume .type do return syntaxError
  let type ← match ← parseIndexType with
    | .inline => pure IndexType.inline
    | .bplustree => pure .bplustree
    | _ => return syntaxError
  modifyAdt fun adt => { adt with indexType := type }
  return statusOk

def parseCreateRelation : Parse Int := do
  let some rel ← consumeIdentifier | return syntaxError
  modifyAdt fun adt => { aqlAddRelation adt rel with optype := .createRelation }
  return statusOk

def noneStatus : Int := 255

/-- `parse_domain(adt, lexer, name)`: the size of `STRING(n)` is stored in a byte. -/
def parseDomain (name : List UInt8) : Parse Int := do
  next
  let (domain, elementSize) ← match ← token with
    | .string =>
      unless ← consume .leftParen do return syntaxError
      next
      let .integerValue size ← token | return syntaxError
      unless ← consume .rightParen do return syntaxError
      pure (Domain.string, (size % 2 ^ 32).toNat)
    | .long => pure (.long, 4)
    | .int => pure (.int, 2)
    | _ => return noneStatus
  modifyAdt fun adt => (aqlAddAttribute adt name domain elementSize false).2
  return statusOk

/-- `parse_create_attributes(adt, lexer)`: the name is kept to `ATTRIBUTE_NAME_LENGTH - 1`
bytes. -/
def parseCreateAttributes : Parse Int := do
  modifyAdt fun adt => { adt with optype := .createAttribute }
  let some name ← consumeIdentifier | return syntaxError
  unless ← consume .domain do return syntaxError
  let r ← parseDomain (name.take (attributeNameLength - 1))
  if aqlError r then return r
  unless ← consume .«in» do return syntaxError
  let some rel ← consumeIdentifier | return syntaxError
  modifyAdt fun adt => aqlAddRelation adt rel
  return statusOk

def parseCreate : Parse Int := do
  next
  let r ← match ← token with
    | .attribute => pure (parsed (← parseCreateAttributes))
    | .index => pure (parsed (← parseCreateIndex))
    | .relation => pure (parsed (← parseCreateRelation))
    | _ => return syntaxError
  if r = 0 then return syntaxError
  unless ← consume .«end» do return syntaxError
  return statusOk

/-- The statement after the first token of `aql_parse`, whose `lexer_next` result is the
status when nothing overwrites it.  `REMAIN` falls through to `STATUS_OK`. -/
def parseStatement (fuel : Nat) (first : Int) : Parse Int := do
  match ← token with
  | .identifier rel =>
    modifyAdt fun adt => { aqlAddRelation adt rel with flags := adt.flags ||| aqlFlagAssign }
    next
    if (← token) ≠ .assign then return syntaxError
    next
    match ← token with
    | .select => parseSelect fuel
    | _ => return syntaxError
  | .create => parseCreate
  | .remove => parseRemove fuel
  | .insert => parseInsert fuel
  | .select => parseSelect fuel
  | .remain =>
    let _ ← parseRemain fuel
    return statusOk
  | .none | .comment => return statusOk
  | .«end» => return first
  | _ => return syntaxError

/-- `aql_parse(adt, input_string)`: the status and the command, with fuel for every byte;
`heap` answers the parse's allocations in order. -/
def aqlParse (heap : Nat → Bool) (adt : Adt) (input : List UInt8) : Option (Int × Adt) :=
  let (first, lexer) := lexerNext ⟨input, input, .none⟩
  let start : AqlState := ⟨lexer, { aqlClear adt with lvm := none }, heap, 0⟩
  (parseStatement (input.length + 2) first start).map fun (status, s) => (status, s.adt)

/-- `aql_parse` accepts statements outside the grammar and refuses one inside it: `REMAIN` with
nothing after it; a value list with an empty element, which keeps only the values before it; a
third relation, which is dropped; and a parenthesised comparison after `AND`, whose `)` the
expression parser takes as its end. -/
theorem aqlParse_disagrees_with_grammar :
    (aqlParse (fun _ => true) Adt.zero (bytes "REMAIN")).map Prod.fst = some statusOk ∧
    (aqlParse (fun _ => true) Adt.zero (bytes "INSERT (1,,) INTO r")).map
        (fun r => (r.1, r.2.valueList, r.2.relationList)) =
      some (statusOk, [⟨.int, 1, []⟩], [bytes "r"]) ∧
    (aqlParse (fun _ => true) Adt.zero (bytes "SELECT a FROM r1, r2, r3")).map (fun r => (r.1, r.2.relationList)) =
      some (statusOk, [bytes "r1", bytes "r2"]) ∧
    (aqlParse (fun _ => true) Adt.zero (bytes "SELECT a FROM r WHERE a = 1 AND (b = 2) ;")).map Prod.fst =
      some syntaxError :=
  ⟨by decide +kernel, by decide +kernel, by decide +kernel, by decide +kernel⟩

/-- `aql_parse` refuses no input for its length: a seventh attribute is dropped, a 13-byte attribute
name, a 17-byte relation name and 32-byte identifiers and strings all parse, as the C code copies
them past the end of their arrays. -/
theorem aqlParse_accepts_overlong_input :
    (aqlParse (fun _ => true) Adt.zero (bytes "SELECT a, b, c, d, e, f, g FROM r")).map
        (fun r => (r.1, r.2.attributeCount)) = some (statusOk, aqlAttributeLimit) ∧
    (aqlParse (fun _ => true) Adt.zero (bytes "SELECT abcdefghijklm FROM r")).map
        (fun r => (r.1, r.2.attributeCount, r.2.attributeList.map AqlAttribute.name)) =
      some (statusOk, 1, [[]]) ∧
    (aqlParse (fun _ => true) Adt.zero (bytes "SELECT a FROM abcdefghijklmnopq")).map
        (fun r => (r.1, r.2.relationList)) = some (statusOk, [bytes "abcdefghijklmnopq"]) ∧
    (aqlParse (fun _ => true) Adt.zero (bytes "SELECT a FROM abcdefghijklmnopqrstuvwxyz012345")).map
        (fun r => (r.1, r.2.relationList)) =
      some (statusOk, [bytes "abcdefghijklmnopqrstuvwxyz012345"]) ∧
    (aqlParse (fun _ => true) Adt.zero (bytes "INSERT ('abcdefghijklmnopqrstuvwxyz012345') INTO r")).map
        (fun r => (r.1, r.2.valueList)) =
      some (statusOk, [⟨.string, 0, bytes "abcdefghijklmnopqrstuvwxyz012345"⟩]) :=
  ⟨by decide +kernel, by decide +kernel, by decide +kernel, by decide +kernel, by decide +kernel⟩

/-- A heap that refuses the LVM instance drops the WHERE clause: the parse ends in
`DB_ALLOCATION_ERROR`, which `AQL_ERROR` reads as success, with no condition set, as for a
SELECT without WHERE. -/
theorem aqlParse_drops_refused_condition :
    (aqlParse (fun _ => false) Adt.zero (bytes "SELECT a FROM r WHERE a = 1 ;")).map
        (fun r => (r.1, r.2.lvm.isSome)) = some (dbAllocationError, false) ∧
      aqlError dbAllocationError = false :=
  ⟨by decide +kernel, rfl⟩

/-- The condition code `aql_parse` leaves for a statement. -/
def conditionCode (heap : Nat → Bool) (input : List UInt8) : Option (Int × Option (List Cell)) :=
  (aqlParse heap Adt.zero input).map fun r => (r.1, r.2.lvm.bind LvmInstance.program)

/-- Two WHERE clauses the parser accepts and compiles to another condition.  `a + b + c = 6` is
laid out as `(a + b) = (c + 6)`: the second `+` is put before `c` alone, since `saved_end` has
moved past `a + b`. In `a = 1 AND (b = 2 OR c = 3))` the `OR` goes to the front of the whole
code, since the inner `parse_where` starts its `saved_end` at 0, and the code is
`(a = 1 AND b = 2) OR c = 3`. -/
theorem where_compiles_to_other_condition :
    conditionCode (fun _ => true) (bytes "SELECT x FROM r WHERE a + b + c = 6 ;") =
        some (statusOk, some (Cond.emit (.cmp .eq (.arith .add (.operand (.var 0)) (.operand (.var 1)))
          (.arith .add (.operand (.var 2)) (.operand (.long 6)))))) ∧
      lvmExecute (fun id => [1, 2, 3].getD id 0)
          (Cond.emit (.cmp .eq (.arith .add (.operand (.var 0)) (.operand (.var 1)))
            (.arith .add (.operand (.var 2)) (.operand (.long 6))))) = some .lvmFalse ∧
      Cond.eval (fun id => [1, 2, 3].getD id 0)
          (.cmp .eq (.arith .add (.arith .add (.operand (.var 0)) (.operand (.var 1))) (.operand (.var 2)))
            (.operand (.long 6))) = .ok true ∧
    conditionCode (fun _ => true) (bytes "SELECT x FROM r WHERE a = 1 AND (b = 2 OR c = 3)) ;") =
        some (statusOk, some (Cond.emit (.or
          (.and (.cmp .eq (.operand (.var 0)) (.operand (.long 1)))
            (.cmp .eq (.operand (.var 1)) (.operand (.long 2))))
          (.cmp .eq (.operand (.var 2)) (.operand (.long 3)))))) ∧
      lvmExecute (fun id => [0, 0, 3].getD id 0)
          (Cond.emit (.or
            (.and (.cmp .eq (.operand (.var 0)) (.operand (.long 1)))
              (.cmp .eq (.operand (.var 1)) (.operand (.long 2))))
            (.cmp .eq (.operand (.var 2)) (.operand (.long 3))))) = some .lvmTrue ∧
      Cond.eval (fun id => [0, 0, 3].getD id 0)
          (.and (.cmp .eq (.operand (.var 0)) (.operand (.long 1)))
            (.or (.cmp .eq (.operand (.var 1)) (.operand (.long 2)))
              (.cmp .eq (.operand (.var 2)) (.operand (.long 3))))) = .ok false :=
  ⟨by decide +kernel, by decide, by decide, by decide +kernel, by decide, by decide⟩

end TinyAra.Arastorage
