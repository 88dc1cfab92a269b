/-
# Arastorage.LvmCode -- the code buffer the parser writes

The parser reads a condition in infix order and `lvm.c` lays it out in prefix order in
`code[]`. Every `lvm_set_*` writes at the write position `end` and moves it on;
`lvm_jump_to_operand` leaves room for a relation before the operand that follows;
`lvm_shift_for_operator(p, end)` moves the code from `end` on up by the room of an operator
and its node type, so that one can be written at `end`; `lvm_set_end` moves the write position
anywhere.

Positions count cells, one for each write, as in `Arastorage.Lvm`. The bound
`DB_VM_BYTECODE_SIZE` is not modelled: with the target's sizes, 4-byte node types and operators
and 16-byte operands, one comparison `a = 1` needs 40 bytes and the default buffer has 32, so
the model is of a build whose buffer is large enough for the condition. A cell nothing has
written since `lvm_reset` is `none`; `program` is the code from 0 to `end`, when every cell of
it is written.  `Arastorage.Parser` drives these functions and proves its results about the
code they lay out.
-/
import TinyAra.Arastorage.Lvm

namespace TinyAra.Arastorage

set_option autoImplicit false

def lvmMaxNameLength : Nat := 12

/-- The parts of `lvm_instance_t` the parser writes: `code[]`, `end`, whether `error` is set,
and the names of `variables[]`, in the order they were registered. -/
structure LvmInstance where
  code : Nat → Option Cell
  codeEnd : Nat
  error : Bool
  names : List (List UInt8)

/-- `lvm_reset(p)`. -/
def LvmInstance.reset : LvmInstance := ⟨fun _ => none, 0, false, []⟩

/-- The code from 0 to `end`. -/
def LvmInstance.program (p : LvmInstance) : Option (List Cell) :=
  (List.range p.codeEnd).mapM p.code

/-- `lookup(p, name)`: the slot of the name, or the first empty one. -/
def lookup (p : LvmInstance) (name : List UInt8) : Nat := p.names.idxOf name

/-- `lvm_register_variable(p, name, LVM_LONG)`: a new name goes in the first empty slot, cut to
`LVM_MAX_NAME_LENGTH` bytes. -/
def lvmRegisterVariable (p : LvmInstance) (name : List UInt8) : LvmStatus × LvmInstance :=
  let id := lookup p name
  if id = lvmMaxVariableId then (.variableLimitReached, p)
  else if id < p.names.length then (.lvmTrue, p)
  else (.lvmTrue, { p with names := p.names ++ [name.take lvmMaxNameLength] })

def setCell (p : LvmInstance) (cell : Cell) : LvmInstance :=
  { p with code := Function.update p.code p.codeEnd (some cell), codeEnd := p.codeEnd + 1 }

def lvmSetType (p : LvmInstance) (type : NodeType) : LvmInstance := setCell p (.type type)

def lvmSetOp (p : LvmInstance) (op : Operator) : LvmInstance :=
  setCell (lvmSetType p .arithOp) (.operator op)

/-- `lvm_set_relation(p, op)`, for a relation or a connective. -/
def lvmSetRelation (p : LvmInstance) (op : Operator) : LvmInstance :=
  setCell (lvmSetType p .cmpOp) (.operator op)

def lvmSetOperand (p : LvmInstance) (o : Operand) : LvmInstance :=
  setCell (lvmSetType p .operand) (.operand o)

def lvmSetLong (p : LvmInstance) (l : Int) : LvmInstance := lvmSetOperand p (.long l)

/-- `lvm_set_variable(p, name)`: nothing is written for a name without a slot. -/
def lvmSetVariable (p : LvmInstance) (name : List UInt8) : LvmInstance :=
  let id := lookup p name
  if id < lvmMaxVariableId then lvmSetOperand p (.var id) else p

/-- `lvm_jump_to_operand(p)`: the old `end`, and room for a relation left there. -/
def lvmJumpToOperand (p : LvmInstance) : Nat × LvmInstance :=
  (p.codeEnd, { p with codeEnd := p.codeEnd + 2 })

/-- `lvm_shift_for_operator(p, end)`: the code from `mark` to `end` moves up two cells and
`end` becomes `mark`; the result is the end of the moved code. A mark at or past `end` is an
error, with 0 for the result. -/
def lvmShiftForOperator (p : LvmInstance) (mark : Nat) : Nat × LvmInstance :=
  let oldEnd := p.codeEnd
  if oldEnd ≤ mark then (0, { p with error := true })
  else
    (oldEnd + 2, { p with
      code := fun i => if mark + 2 ≤ i ∧ i < oldEnd + 2 then p.code (i - 2) else p.code i
      codeEnd := mark })

def lvmGetEnd (p : LvmInstance) : Nat := p.codeEnd

def lvmSetEnd (p : LvmInstance) (mark : Nat) : Nat × LvmInstance :=
  (p.codeEnd, { p with codeEnd := mark })

end TinyAra.Arastorage
