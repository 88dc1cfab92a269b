/-
# Arastorage.Codec -- a tuple's values in storage and back

`relation_insert` (relation.c) lays a tuple out as one record: the attributes in
schema order, each in `element_size` bytes written by `db_value_to_phy`
(result.c) -- an INT in two bytes and a LONG in four, most significant first, a
STRING(n) in n bytes ending in NUL. A SELECT reads an attribute at the sum of
the sizes before it (`get_attribute_value_offset`), with `db_phy_to_value` for
the results (`db_get_value`, `cursor_get_value`, `relation_get_value`) and with
`lvm_set_operand_value` (lvm.c) for the variables of the WHERE condition.

`long` is 32 bits wide on the target, so `int_value` and `long_value` share one
word of `attribute_value_t`'s union, and a byte shifted into bit 31 of a long
wraps into its sign (`Int.bmod _ (2 ^ 32)`).

* `relationInsert_negativeInt`: both decoders put the two bytes of an INT together
  without extending the sign, so the INT -1 reads back as 65535.
-/
import Mathlib.Data.Int.Bitwise
import Mathlib.Data.List.Forall2
import Mathlib.Data.List.GetD
import Mathlib.Tactic.Ring

namespace TinyAra.Arastorage

variable {attr : Attribute} {attrs : List Attribute} {value : AttributeValue}
  {values : List AttributeValue}

set_option autoImplicit false

/-- `domain_t` (arastorage.h). -/
inductive Domain
  | unspecified
  | int
  | long
  | string
  | double
  deriving DecidableEq, Repr

/-- The part of `attribute_t` the codecs read. -/
structure Attribute where
  domain : Domain
  elementSize : Nat
  deriving DecidableEq, Repr

/-- `attribute_value_t`: the domain and the union, read as the 32-bit word that
`int_value` and `long_value` share, or as the bytes `string_value` points at. -/
structure AttributeValue where
  domain : Domain
  word : Int
  string : List UInt8
  deriving DecidableEq, Repr

/-- The error codes of `db_result_t` that the codecs return. -/
inductive DbResult
  | relationalError
  | typeError
  | implementationError
  deriving DecidableEq, Repr

/-- `db_value_to_phy(ptr, attr, value)`: the `element_size` bytes of the field. A STRING
copies `element_size` bytes from `string_value`, whatever the length of the string, and
ends them with a NUL. -/
def dbValueToPhy (attr : Attribute) (value : AttributeValue) : Except DbResult (List UInt8) :=
  match attr.domain with
  | .string => .ok ((value.string.take attr.elementSize).set (attr.elementSize - 1) 0)
  | .int =>
      let intValue := value.word
      -- ptr[0] = int_value >> 8; ptr[1] = int_value & 0xff
      .ok [UInt8.ofInt (intValue >>> (8 : Nat)), UInt8.ofInt (intValue % 256)]
  | .long =>
      let longValue := value.word
      .ok [UInt8.ofInt (longValue >>> (24 : Nat)), UInt8.ofInt (longValue >>> (16 : Nat)),
        UInt8.ofInt (longValue >>> (8 : Nat)), UInt8.ofInt (longValue % 256)]
  | _ => .error .typeError

/-- `db_phy_to_value(value, attr, ptr)` on the bytes of one field.  `atof` is not
modelled: a DOUBLE keeps the text it would read. -/
def dbPhyToValue (attr : Attribute) (ptr : List UInt8) : Except DbResult AttributeValue :=
  match attr.domain with
  | .string =>
      -- ptr[element_size - 1] = '\0'; VALUE_STRING(value) = ptr
      .ok ⟨.string, 0, ptr.set (attr.elementSize - 1) 0⟩
  | .int =>
      let intValue := ((ptr.getD 0 0).toNat <<< 8) ||| ((ptr.getD 1 0).toNat &&& 0xff)
      .ok ⟨.int, intValue, []⟩
  | .long =>
      let longValue := ((ptr.getD 0 0).toNat <<< 24) ||| ((ptr.getD 1 0).toNat <<< 16) |||
        ((ptr.getD 2 0).toNat <<< 8) ||| (ptr.getD 3 0).toNat
      .ok ⟨.long, Int.bmod longValue (2 ^ 32), []⟩
  | .double => .ok ⟨.double, 0, ptr⟩
  | .unspecified => .error .typeError

/-- `lvm_set_operand_value(p, attr, value)`: the value the variable of an INT or LONG
attribute gets (`operand_value.l`); for other domains the C code leaves it unset. -/
def lvmSetOperandValue (attr : Attribute) (value : List UInt8) : Option Int :=
  match attr.domain with
  | .int => some (((value.getD 0 0).toNat <<< 8) ||| (value.getD 1 0).toNat)
  | .long =>
      -- the uint32_t result is converted to long
      some (Int.bmod (((value.getD 0 0).toNat <<< 24) ||| ((value.getD 1 0).toNat <<< 16) |||
        ((value.getD 2 0).toNat <<< 8) ||| (value.getD 3 0).toNat) (2 ^ 32))
  | _ => none

/-- The record `relation_insert(rel, values)` builds for `storage_put_row`, one value per
attribute; an INT value may go into a LONG attribute. Callers pass one value for each
attribute: with fewer the C code reads past the array. -/
def relationInsert : List Attribute → List AttributeValue → Except DbResult (List UInt8)
  | [], _ => .ok []
  | attr :: attrs, value :: values =>
      if attr.domain ≠ value.domain ∧ ¬(attr.domain = .long ∧ value.domain = .int) then
        .error .relationalError
      else do
        let field ← dbValueToPhy attr value
        let rest ← relationInsert attrs values
        pure (field ++ rest)
  | _ :: _, [] => .error .implementationError

/-- `get_attribute_value_offset`: where attribute `i` starts in a record. -/
def attributeOffset (attrs : List Attribute) (i : Nat) : Nat :=
  ((attrs.take i).map Attribute.elementSize).sum

/-- Reading attribute `i` of a record, as every reader of a SELECT does. -/
def readAttribute (attrs : List Attribute) (record : List UInt8) (i : Nat) :
    Except DbResult AttributeValue :=
  match attrs[i]? with
  | none => .error .implementationError
  | some attr =>
      dbPhyToValue attr ((record.drop (attributeOffset attrs i)).take attr.elementSize)

/-! ## The integer fields -/

/-! ## Strings -/

/-! ## Records -/

/-- What a reader of an `attribute_value_t` sees. -/
inductive Datum
  | number (n : Int)
  | text (s : List UInt8)
  | other
  deriving DecidableEq, Repr

/-- An INT attribute that is given -1 is stored as the bytes `ff ff` and comes back as 65535,
both from `db_phy_to_value` and from `lvm_set_operand_value`. -/
theorem relationInsert_negativeInt :
    relationInsert [⟨.int, 2⟩] [⟨.int, -1, []⟩] = .ok [255, 255] ∧
      readAttribute [⟨.int, 2⟩] [255, 255] 0 = .ok ⟨.int, 65535, []⟩ ∧
      lvmSetOperandValue ⟨.int, 2⟩ [255, 255] = some 65535 :=
  ⟨by rfl, by rfl, by rfl⟩

end TinyAra.Arastorage
