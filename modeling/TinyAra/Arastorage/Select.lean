/-
# Arastorage.Select -- SELECT, with and without aggregates

`relation_select` builds the result relation of a SELECT from the parsed command: one attribute
for each attribute the command lists, in order, with the aggregator the command gave it. An
aggregated attribute is a DOUBLE, whose aggregation value starts at `LONG_MIN` for MAX, at
`LONG_MAX` for MIN and at 0 otherwise. The attributes the WHERE clause names are in the command
too (`AQL_ADD_PROCESSING_ATTRIBUTE`), flagged `NO_STORE` and without an aggregator, unless the
SELECT already lists them.

`relation_process_select` reads one row per call. It gives the condition the values of every INT
or LONG attribute of the result relation (`lvm_set_operand_value`), and when the condition holds
it counts the row. An aggregate query then hands every attribute of the result relation to
`aggregate`, which updates the attribute's aggregation value by its aggregator. An attribute with
no aggregator gets `DB_TYPE_ERROR` there, and so does a row the WHERE clause selects when it names
an attribute the SELECT does not list; `relation_process_result` then gives no cursor. At the end
of the rows an aggregate query writes its one result tuple.

A SELECT without WHERE has no condition (`lvm_instance` is NULL), and `lvm_set_operand_value` still
writes the variables of that NULL instance: the model gives no answer there. The aggregation
values are doubles; the model keeps them as rationals, which is exact for COUNT, SUM, MAX and MIN
over the 32-bit values of fewer than `2^21` rows.

* `aggregate_with_where_fails`: `SELECT COUNT(a) FROM r WHERE b = 1;` over one row where `a` and `b`
  are 1 gives no cursor but `DB_TYPE_ERROR`.
-/
import TinyAra.Arastorage.Parser
import Mathlib.Algebra.Order.Ring.Rat

namespace TinyAra.Arastorage.Select

set_option autoImplicit false

/-- `LONG_MIN` and `LONG_MAX` of the 32-bit `long`, as doubles. -/
def longMin : ℚ := -2 ^ 31
def longMax : ℚ := 2 ^ 31 - 1

/-- An attribute of a stored relation: its name and its field. -/
structure RelAttribute where
  name : List UInt8
  field : Attribute
  deriving DecidableEq, Repr

/-- A stored relation: its attributes in order, and its rows as `storage_get_row` reads them. -/
structure Relation where
  attributes : List RelAttribute
  rows : List (List UInt8)
  deriving DecidableEq, Repr

/-- `attribute_find(rel, name)` and `get_attribute_value_offset`: the attribute and where its
field starts in a row. -/
def attributeFind (rel : Relation) (name : List UInt8) : Option (RelAttribute × Nat) :=
  match rel.attributes.findIdx? (·.name = name) with
  | none => none
  | some i => rel.attributes[i]?.map fun a => (a, attributeOffset (rel.attributes.map RelAttribute.field) i)

/-- An attribute of the result relation, with its aggregation state. -/
structure ResultAttribute where
  name : List UInt8
  domain : Domain
  elementSize : Nat
  aggregator : Aggregator
  aggregationValue : ℚ
  flags : Nat
  deriving DecidableEq

/-- The aggregation value `relation_select` starts an aggregator with. It leaves the value of an
attribute without aggregator unset; the model says 0. -/
def initialValue : Aggregator → ℚ
  | .max => longMin
  | .min => longMax
  | _ => 0

/-- The `db_result_t` errors of a query: those of the codecs, `DB_NAME_ERROR` and
`DB_PARSING_ERROR`. -/
inductive SelectError
  | codec (r : DbResult)
  | nameError
  | parsingError
  deriving DecidableEq, Repr

/-- A result attribute with the stored attribute it is read from and that attribute's offset:
an entry of `attr_map`. -/
structure Mapped where
  target : ResultAttribute
  source : RelAttribute
  offset : Nat
  deriving DecidableEq

/-- The result attribute `relation_select` adds for attribute `i` of the command, mapped to its
source by `generate_attribute_map`. -/
def resultAttribute (rel : Relation) (adt : Adt) (i : Nat) : Except SelectError Mapped :=
  let a := adt.attributes i
  match attributeFind rel a.name with
  | none => .error .nameError
  | some (source, offset) =>
    let aggregator := adt.aggregators i
    .ok ⟨⟨a.name, if aggregator ≠ .none then .double else source.field.domain,
      if aggregator ≠ .none then 8 else source.field.elementSize, aggregator, initialValue aggregator,
      a.flags⟩, source, offset⟩

/-- `relation_select(handle, rel, adt)` and the attribute map of `generate_selection_result`: with
`AQL_FLAG_SELECT_ALL` every attribute of `rel`, otherwise those the command lists. Projected
attributes and aggregated ones do not mix: `DB_RELATIONAL_ERROR`. -/
def relationSelect (rel : Relation) (adt : Adt) : Except SelectError (List Mapped) :=
  if adt.flags &&& aqlFlagSelectAll ≠ 0 then
    .ok ((List.range rel.attributes.length).filterMap fun i =>
      rel.attributes[i]?.map fun a =>
        ⟨⟨a.name, a.field.domain, a.field.elementSize, .none, 0, 0⟩, a,
          attributeOffset (rel.attributes.map RelAttribute.field) i⟩)
  else do
    let attrs ← (List.range adt.attributeCount).mapM (resultAttribute rel adt)
    -- only attributes projected into the result count as normal ones
    let normal := (List.range adt.attributeCount).countP fun i =>
      adt.aggregators i = .none ∧ (adt.attributes i).flags &&& attributeFlagNoStore = 0
    if normal > 0 ∧ attrs.length > normal then .error (.codec .relationalError) else .ok attrs

/-! ## Processing the rows -/

/-- `aggregate(attr, value, count)`: the attribute with its new aggregation value. -/
def aggregate (attr : ResultAttribute) (value : AttributeValue) (count : Nat) :
    Except SelectError ResultAttribute := do
  let longValue : ℚ ← match value.domain with
    | .int | .long => pure (value.word : ℚ)
    | _ => .error (.codec .typeError)
  let v := attr.aggregationValue
  let v' ← match attr.aggregator with
    | .count => pure (v + 1)
    | .sum => pure (v + longValue)
    | .mean => pure (if count = 1 then longValue else (v * ((count - 1 : Nat) : ℚ) + longValue) / count)
    | .max => pure (if longValue > v then longValue else v)
    | .min => pure (if longValue < v then longValue else v)
    | .none => .error (.codec .typeError)
  pure { attr with aggregationValue := v' }

def Mapped.field (m : Mapped) (row : List UInt8) : List UInt8 :=
  (row.drop m.offset).take m.source.field.elementSize

/-- The aggregation loop of `relation_process_select` over a selected row: `db_phy_to_value` and
`aggregate` for every attribute of the map, in order. -/
def aggregateRow (row : List UInt8) (count : Nat) : List Mapped → Except SelectError (List Mapped)
  | [] => .ok []
  | m :: ms => do
    let value ← (dbPhyToValue m.source.field (m.field row)).mapError .codec
    let target ← aggregate m.target value count
    let rest ← aggregateRow row count ms
    pure ({ m with target } :: rest)

/-- `lvm_set_operand_value(lvm, from_attr, from_ptr)` for every INT or LONG attribute of the map.
With no condition the instance is NULL and a write through it has no answer. -/
def setOperands (lvm : Option LvmInstance) (row : List UInt8) (vars : Nat → Int) :
    List Mapped → Option (Nat → Int)
  | [] => some vars
  | m :: ms =>
    match lvmSetOperandValue m.source.field (m.field row) with
    | none => setOperands lvm row vars ms
    | some v =>
      match lvm with
      | none => none
      | some p =>
        let id := lookup p m.source.name
        setOperands lvm row (if id = lvmMaxVariableId then vars else Function.update vars id v) ms

/-- `lvm_instance == NULL || lvm_execute(lvm_instance) == TRUE`. -/
def passes (lvm : Option LvmInstance) (vars : Nat → Int) : Bool :=
  match lvm with
  | none => true
  | some p => (p.program.bind (lvmExecute vars)) = some .lvmTrue

/-- What `relation_process_select` keeps between calls: the map with the aggregation values,
`tuple_id + 1`, `current_row`, `AQL_FLAG_AGGREGATE` of `adt_flags`, and the condition's
variables. -/
structure Handle where
  attrs : List Mapped
  nextRow : Nat
  currentRow : Nat
  aggregating : Bool
  vars : Nat → Int

/-- What the cursor gets: the ids of the tuples that pass (`cursor_data_add`), and for an aggregate
query the values of its result tuple. -/
structure Cursor where
  tupleIds : List Nat
  aggregates : Option (List ℚ)
  deriving DecidableEq, Repr

/-- What one call of `relation_process_select` returns. -/
inductive Reply
  | ok
  | finished
  | error (e : SelectError)
  deriving DecidableEq, Repr

/-- `relation_process_select(handle, cursor)` on the rows of `rel`, without an index. -/
def processSelect (rel : Relation) (lvm : Option LvmInstance) (h : Handle) (c : Cursor) :
    Option (Reply × Handle × Cursor) :=
  match rel.rows[h.nextRow]? with
  | none =>
    -- `storage_get_row` returns `DB_FINISHED`; an aggregate query writes its result tuple
    if h.aggregating then
      some (.finished, { h with nextRow := h.nextRow + 1, currentRow := 0, aggregating := false },
        { tupleIds := c.tupleIds ++ [0], aggregates := some (h.attrs.map (·.target.aggregationValue)) })
    else some (.finished, { h with nextRow := h.nextRow + 1 }, c)
  | some row => do
    let vars ← setOperands lvm row h.vars h.attrs
    let h := { h with nextRow := h.nextRow + 1, vars }
    if passes lvm vars then
      let h := { h with currentRow := h.currentRow + 1 }
      if h.aggregating then
        match aggregateRow row h.currentRow h.attrs with
        | .error e => pure (.error e, h, c)
        | .ok attrs => pure (.ok, { h with attrs }, c)
      else pure (.ok, h, { c with tupleIds := c.tupleIds ++ [h.nextRow - 1] })
    else pure (.ok, h, c)

/-- `relation_process_result(handle)`: calls until `DB_FINISHED`, at most `n`; an error gives no
cursor. -/
def processResult (rel : Relation) (lvm : Option LvmInstance) :
    Nat → Handle → Cursor → Option (Except SelectError Cursor)
  | 0, _, _ => none
  | n + 1, h, c => do
    let (reply, h, c) ← processSelect rel lvm h c
    match reply with
    | .error e => pure (.error e)
    | .finished => pure (.ok c)
    | .ok => processResult rel lvm n h c

/-- `db_query(format)` for a SELECT over the relation `rel` it names: the cursor, or the error
that leaves it NULL; `heap` answers the allocations of the parse. -/
def dbQuery (heap : Nat → Bool) (rel : Relation) (format : List UInt8) :
    Option (Except SelectError Cursor) := do
  let (status, adt) ← aqlParse heap Adt.zero format
  if aqlError status then return .error .parsingError
  match relationSelect rel adt with
  | .error e => return .error e
  | .ok attrs =>
    processResult rel adt.lvm (rel.rows.length + 1)
      ⟨attrs, 0, 0, adt.flags &&& aqlFlagAggregate ≠ 0, fun _ => 0⟩ ⟨[], none⟩

/-! ## An attribute that only the WHERE clause names -/

/-- `SELECT COUNT(a) FROM r WHERE b = 1;` over the one row `(1, 1)` of `r(a INT, b INT)`: `b` comes in
without an aggregator, the row is selected, and the query gives `DB_TYPE_ERROR` where the count is
1, as the same query with `WHERE a = 1` gives. -/
theorem aggregate_with_where_fails :
    dbQuery (fun _ => true) ⟨[⟨bytes "a", ⟨.int, 2⟩⟩, ⟨bytes "b", ⟨.int, 2⟩⟩], [[0, 1, 0, 1]]⟩
        (bytes "SELECT COUNT(a) FROM r WHERE b = 1;") = some (.error (.codec .typeError)) ∧
      dbQuery (fun _ => true) ⟨[⟨bytes "a", ⟨.int, 2⟩⟩, ⟨bytes "b", ⟨.int, 2⟩⟩], [[0, 1, 0, 1]]⟩
        (bytes "SELECT COUNT(a) FROM r WHERE a = 1;") = some (.ok ⟨[0], some [1]⟩) := by
  decide +kernel

end TinyAra.Arastorage.Select
