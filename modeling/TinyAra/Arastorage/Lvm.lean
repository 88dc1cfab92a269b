/-
# Arastorage.Lvm -- the logic VM of WHERE conditions

`lvm.c` keeps a condition as prefix code: before every operator or operand a node type
(`lvm_set_type`), then the operator (`lvm_set_op`, `lvm_set_relation`) or the operand
(`lvm_set_operand`).  `lvm_execute` evaluates it for the current values of the variables
(`eval_logic`, `eval_expr`); `lvm_derive` reads a range for each variable off the same code
(`derive_relation`, `create_intersection`, `create_union`), and `select_index` scans an index
over the range `lvm_get_derived_range` gives.

The code is a list of cells, one for each `lvm_set_*` write; a read that finds no cell of the
kind it expects is `none`, which the code the parser emits never gives. Variables are named
by their index in `variables`; `long` is the 32-bit `long` of the target.

* `lvmExecute_emit`: the code of a condition tree evaluates to the tree's meaning;
* `lvmDerive_sound`: for comparisons with the variable on the left, joined by AND, and OR
  whose sides constrain the same variables, every valuation above `LONG_MIN` that makes the
  condition true lies in the derived ranges; `lvmDerive_misses_matches` shows each of the three
  restrictions is needed.
-/
import Mathlib.Data.Int.Bitwise
import TinyAra.Lib.IntervalBox

namespace TinyAra.Arastorage

variable {fuel : Nat} {vars : Nat → Int} {c : Cond}

set_option autoImplicit false

/-- `lvm_status_t`. -/
inductive LvmStatus
  | lvmFalse
  | lvmTrue
  | invalidIdentifier
  | semanticError
  | mathError
  | stackOverflow
  | typeError
  | variableLimitReached
  | executionError
  | derivationError
  deriving DecidableEq, Repr

/-- `node_type_t`. -/
inductive NodeType
  | arithOp
  | operand
  | cmpOp
  | connective
  deriving DecidableEq, Repr

/-- `operator_t`: `LVM_GE` is `>` and `LVM_LE` is `<`. -/
inductive Operator
  | add
  | sub
  | mul
  | div
  | eq
  | neq
  | ge
  | geq
  | le
  | leq
  | and
  | or
  | not
  deriving DecidableEq, Repr

def Operator.isConnective : Operator → Bool
  | .and | .or | .not => true
  | _ => false

/-- `operand_t` as `lvm_set_variable` and `lvm_set_long` write it. -/
inductive Operand
  | var (id : Nat)
  | long (l : Int)
  deriving DecidableEq, Repr

/-- One write of `lvm_set_type`, of an operator or of an operand. -/
inductive Cell
  | type (t : NodeType)
  | operator (op : Operator)
  | operand (o : Operand)
  deriving DecidableEq, Repr

def lvmMaxVariableId : Nat := 5

def dbLongMax : Int := 2 ^ 31 - 1

def dbLongMin : Int := -2 ^ 31 + 1

/-- A `long` result of the 32-bit target, wrapped as the compiler's arithmetic does. -/
def long32 (x : Int) : Int := Int.bmod x (2 ^ 32)

def operandToLong (vars : Nat → Int) : Operand → Int
  | .long l => l
  | .var id => vars id

def evalArith (op : Operator) (v₀ v₁ : Int) : Except LvmStatus Int :=
  match op with
  | .add => .ok (long32 (v₀ + v₁))
  | .sub => .ok (long32 (v₀ - v₁))
  | .mul => .ok (long32 (v₀ * v₁))
  | .div => if v₁ = 0 then .error .mathError else .ok (long32 (v₀.tdiv v₁))
  | _ => .error .executionError

def evalComparison (op : Operator) (l₁ l₂ : Int) : Except LvmStatus Bool :=
  match op with
  | .eq => .ok (decide (l₁ = l₂))
  | .neq => .ok (decide (l₁ ≠ l₂))
  | .ge => .ok (decide (l₁ > l₂))
  | .geq => .ok (decide (l₁ ≥ l₂))
  | .le => .ok (decide (l₁ < l₂))
  | .leq => .ok (decide (l₁ ≤ l₂))
  | _ => .error .executionError

/-! ## Execution -/

mutual

/-- One of the two arguments `eval_expr` and a comparison of `eval_logic` read: an arithmetic
node, evaluated by `eval_expr`, or an operand, read by `operand_to_long`. -/
def evalArgument (vars : Nat → Int) : Nat → List Cell →
    Option (Except LvmStatus (Int × List Cell))
  | 0, _ => none
  | fuel + 1, .type .arithOp :: .operator op :: code => evalExpr vars fuel op code
  | _ + 1, .type .operand :: .operand o :: code => some (.ok (operandToLong vars o, code))
  | _ + 1, .type .cmpOp :: _ => some (.error .semanticError)
  | _ + 1, .type .connective :: _ => some (.error .semanticError)
  | _ + 1, _ => none

def evalExpr (vars : Nat → Int) : Nat → Operator → List Cell →
    Option (Except LvmStatus (Int × List Cell))
  | 0, _, _ => none
  | fuel + 1, op, code =>
    match evalArgument vars fuel code with
    | some (.ok (v₀, code)) =>
      match evalArgument vars fuel code with
      | some (.ok (v₁, code)) => some ((evalArith op v₀ v₁).map fun v => (v, code))
      | other => other
    | other => other

end

/-- `eval_logic(p, op)`: a connective reads its conditions, each behind a node type that must
be `LVM_CMP_OP`, and evaluates both before it combines them; a comparison reads two
arguments. -/
def evalLogic (vars : Nat → Int) : Nat → Operator → List Cell →
    Option (Except LvmStatus (Bool × List Cell))
  | 0, _, _ => none
  | fuel + 1, op, code =>
    let condition (code : List Cell) : Option (Except LvmStatus (Bool × List Cell)) :=
      match code with
      | .type .cmpOp :: .operator op' :: code => evalLogic vars fuel op' code
      | .type .cmpOp :: _ => none
      | .type _ :: _ => some (.error .semanticError)
      | _ => none
    if op.isConnective then
      match condition code with
      | some (.ok (r₀, code)) =>
        if op = .not then some (.ok (!r₀, code))
        else
          match condition code with
          | some (.ok (r₁, code)) => some (.ok (if op = .and then r₀ && r₁ else r₀ || r₁, code))
          | other => other
      | other => other
    else
      match evalArgument vars fuel code with
      | some (.ok (l₁, code)) =>
        match evalArgument vars fuel code with
        | some (.ok (l₂, code)) => some ((evalComparison op l₁ l₂).map fun r => (r, code))
        | some (.error r) => some (.error r)
        | none => none
      | some (.error r) => some (.error r)
      | none => none

/-- `lvm_execute(p)`: the code must start with a relational operator. Past its end the code
array holds the zeros of `lvm_reset`. -/
def lvmExecute (vars : Nat → Int) (code : List Cell) : Option LvmStatus :=
  match code with
  | .type .cmpOp :: .operator op :: rest =>
    (evalLogic vars code.length op rest).map fun
      | .ok (r, _) => if r then .lvmTrue else .lvmFalse
      | .error status => status
  | .type .cmpOp :: _ => none
  | .type _ :: _ => some .executionError
  | [] => some .executionError
  | _ :: _ => none

/-! ## Conditions

The trees the parser compiles (`parse_expr`, `parse_comparison`, `parse_where`) and the code
they are laid out as: an operator behind its node type, then its operands. -/

/-- The operators of `parse_expr`. -/
inductive Arith
  | add
  | sub
  | mul
  | div
  deriving DecidableEq, Repr

def Arith.toOperator : Arith → Operator
  | .add => .add
  | .sub => .sub
  | .mul => .mul
  | .div => .div

/-- The relations of `parse_comparison`. -/
inductive Comparison
  | eq
  | neq
  | ge
  | geq
  | le
  | leq
  deriving DecidableEq, Repr

def Comparison.toOperator : Comparison → Operator
  | .eq => .eq
  | .neq => .neq
  | .ge => .ge
  | .geq => .geq
  | .le => .le
  | .leq => .leq

inductive Expr
  | operand (o : Operand)
  | arith (op : Arith) (e₁ e₂ : Expr)
  deriving DecidableEq, Repr

inductive Cond
  | cmp (rel : Comparison) (e₁ e₂ : Expr)
  | and (c₁ c₂ : Cond)
  | or (c₁ c₂ : Cond)
  deriving DecidableEq, Repr

def Expr.emit : Expr → List Cell
  | .operand o => [.type .operand, .operand o]
  | .arith op e₁ e₂ => .type .arithOp :: .operator op.toOperator :: (e₁.emit ++ e₂.emit)

/-- The operator of a condition's root. -/
def Cond.op : Cond → Operator
  | .cmp rel _ _ => rel.toOperator
  | .and _ _ => .and
  | .or _ _ => .or

def Cond.body : Cond → List Cell
  | .cmp _ e₁ e₂ => e₁.emit ++ e₂.emit
  | .and c₁ c₂ | .or c₁ c₂ =>
    (.type .cmpOp :: .operator c₁.op :: c₁.body) ++ (.type .cmpOp :: .operator c₂.op :: c₂.body)

/-- A connective is written by `lvm_set_relation` too, behind `LVM_CMP_OP`. -/
def Cond.emit (c : Cond) : List Cell := .type .cmpOp :: .operator c.op :: c.body

/-- An expression's value, its operands evaluated left to right. -/
def Expr.eval (vars : Nat → Int) : Expr → Except LvmStatus Int
  | .operand o => .ok (operandToLong vars o)
  | .arith op e₁ e₂ => do
    let v₁ ← e₁.eval vars
    let v₂ ← e₂.eval vars
    evalArith op.toOperator v₁ v₂

/-- A condition's truth: both sides of a connective are evaluated. -/
def Cond.eval (vars : Nat → Int) : Cond → Except LvmStatus Bool
  | .cmp rel e₁ e₂ => do
    let l₁ ← e₁.eval vars
    let l₂ ← e₂.eval vars
    evalComparison rel.toOperator l₁ l₂
  | .and c₁ c₂ => do
    let r₁ ← c₁.eval vars
    let r₂ ← c₂.eval vars
    pure (r₁ && r₂)
  | .or c₁ c₂ => do
    let r₁ ← c₁.eval vars
    let r₂ ← c₂.eval vars
    pure (r₁ || r₂)

theorem Expr.two_le_length_emit (e : Expr) : 2 ≤ e.emit.length := by
  cases e <;> simp [Expr.emit]

theorem Cond.length_emit (c : Cond) : c.emit.length = c.body.length + 2 := by
  simp [Cond.emit]

@[simp] theorem Cond.op_cmp (rel : Comparison) (e₁ e₂ : Expr) :
    (Cond.cmp rel e₁ e₂).op = rel.toOperator := rfl

@[simp] theorem Cond.op_and (c₁ c₂ : Cond) : (Cond.and c₁ c₂).op = .and := rfl

@[simp] theorem Cond.op_or (c₁ c₂ : Cond) : (Cond.or c₁ c₂).op = .or := rfl

theorem Cond.emit_and (c₁ c₂ : Cond) (rest : List Cell) :
    (Cond.and c₁ c₂).emit ++ rest = .type .cmpOp :: .operator .and :: (c₁.emit ++ (c₂.emit ++ rest)) := by
  simp [Cond.emit, Cond.body]

theorem Cond.emit_or (c₁ c₂ : Cond) (rest : List Cell) :
    (Cond.or c₁ c₂).emit ++ rest = .type .cmpOp :: .operator .or :: (c₁.emit ++ (c₂.emit ++ rest)) := by
  simp [Cond.emit, Cond.body]

theorem Cond.two_le_length_body (c : Cond) : 2 ≤ c.body.length := by
  cases c <;> simp [Cond.body]; grind [Expr.two_le_length_emit]

/-- The code of an expression, followed by any code, is read as one argument with the
expression's value; the fuel is the code's length. -/
theorem evalArgument_emit (vars : Nat → Int) (e : Expr) (rest : List Cell)
    (enough : e.emit.length ≤ fuel) :
    evalArgument vars fuel (e.emit ++ rest) = some ((e.eval vars).map fun v => (v, rest)) := by
  induction e generalizing rest fuel with
  | operand o =>
    obtain ⟨fuel, rfl⟩ : ∃ f, fuel = f + 1 := ⟨fuel - 1, by simp [Expr.emit] at enough; omega⟩
    simp [Expr.emit, evalArgument, Expr.eval, Except.map]
  | arith op e₁ e₂ ih₁ ih₂ =>
    have length : e₁.emit.length + e₂.emit.length + 2 ≤ fuel := by
      simp [Expr.emit] at enough; omega
    have two₂ := e₂.two_le_length_emit
    -- an arithmetic node costs one unit of fuel for the node and one for `eval_expr`
    obtain ⟨fuel, rfl⟩ : ∃ f, fuel = f + 2 := ⟨fuel - 2, by omega⟩
    simp only [Expr.emit, List.cons_append, List.append_assoc, evalArgument, evalExpr]
    rw [ih₁ _ (by omega)]
    cases h₁ : e₁.eval vars with
    | error r => simp [Expr.eval, h₁, Except.map, bind, Except.bind]
    | ok v₁ =>
      simp only [Except.map]
      rw [ih₂ _ (by omega)]
      cases h₂ : e₂.eval vars with
      | error r => simp [Expr.eval, h₁, h₂, Except.map, bind, Except.bind]
      | ok v₂ => simp [Expr.eval, h₁, h₂, Except.map, bind, Except.bind]

theorem Comparison.isConnective_toOperator (rel : Comparison) :
    rel.toOperator.isConnective = false := by
  cases rel <;> rfl

/-- The code of a condition after its root operator, followed by any code, evaluates to the
condition's truth. -/
theorem evalLogic_body (vars : Nat → Int) (c : Cond) (rest : List Cell)
    (enough : c.emit.length ≤ fuel) :
    evalLogic vars fuel c.op (c.body ++ rest) = some ((c.eval vars).map fun r => (r, rest)) := by
  induction c generalizing rest fuel with
  | cmp rel e₁ e₂ =>
    have length : e₁.emit.length + e₂.emit.length + 2 ≤ fuel := by
      simp only [Cond.length_emit, Cond.body, List.length_append] at enough; omega
    obtain ⟨fuel, rfl⟩ : ∃ f, fuel = f + 1 := ⟨fuel - 1, by have := e₁.two_le_length_emit; omega⟩
    simp only [Cond.op_cmp, Cond.body, List.append_assoc, evalLogic,
      Comparison.isConnective_toOperator, Bool.false_eq_true, if_false]
    rw [evalArgument_emit vars e₁ _ (by omega)]
    cases h₁ : e₁.eval vars with
    | error r => simp [Cond.eval, h₁, Except.map, bind, Except.bind]
    | ok l₁ =>
      simp only [Except.map]
      rw [evalArgument_emit vars e₂ _ (by omega)]
      cases h₂ : e₂.eval vars with
      | error r => simp [Cond.eval, h₁, h₂, Except.map, bind, Except.bind]
      | ok l₂ => simp [Cond.eval, h₁, h₂, Except.map, bind, Except.bind]
  | and c₁ c₂ ih₁ ih₂ | or c₁ c₂ ih₁ ih₂ =>
    have length : c₁.body.length + c₂.body.length + 6 ≤ fuel := by
      simp only [Cond.length_emit, Cond.body, List.length_append, List.length_cons] at enough
      omega
    have two₂ := c₂.two_le_length_body
    obtain ⟨fuel, rfl⟩ : ∃ f, fuel = f + 1 := ⟨fuel - 1, by omega⟩
    simp only [Cond.op_and, Cond.op_or, Cond.body, List.append_assoc, List.cons_append, evalLogic,
      Operator.isConnective, if_true]
    rw [ih₁ _ (by rw [Cond.length_emit]; omega)]
    cases h₁ : c₁.eval vars with
    | error r => simp [Cond.eval, h₁, Except.map, bind, Except.bind]
    | ok r₁ =>
      simp only [Except.map, reduceCtorEq, if_false]
      rw [ih₂ _ (by rw [Cond.length_emit]; omega)]
      cases h₂ : c₂.eval vars with
      | error r => simp [Cond.eval, h₁, h₂, Except.map, bind, Except.bind]
      | ok r₂ => simp [Cond.eval, h₁, h₂, Except.map, bind, Except.bind, pure, Except.pure]

theorem lvmExecute_emit (vars : Nat → Int) (c : Cond) :
    lvmExecute vars c.emit = some (match c.eval vars with
      | .ok r => if r then .lvmTrue else .lvmFalse
      | .error status => status) := by
  have run := evalLogic_body vars c [] (le_refl c.emit.length)
  rw [List.append_nil] at run
  simp only [lvmExecute, Cond.emit]
  rw [← Cond.emit, run]
  cases c.eval vars <;> rfl

theorem Expr.eval_error {e : Expr} {s : LvmStatus}
    (h : e.eval vars = .error s) : s = .mathError := by
  induction e with
  | operand o => cases h
  | arith op e₁ e₂ ih₁ ih₂ =>
    simp only [Expr.eval, bind, Except.bind] at h
    cases h₁ : e₁.eval vars with
    | error r => rw [h₁] at h; cases h; exact ih₁ h₁
    | ok v₁ =>
      cases h₂ : e₂.eval vars with
      | error r => rw [h₁, h₂] at h; cases h; exact ih₂ h₂
      | ok v₂ =>
        rw [h₁, h₂] at h
        cases op <;> simp only [evalArith, Arith.toOperator, reduceCtorEq] at h
        split at h <;> simp_all

theorem Cond.eval_error {s : LvmStatus}
    (h : c.eval vars = .error s) : s = .mathError := by
  induction c with
  | cmp rel e₁ e₂ =>
    simp only [Cond.eval, bind, Except.bind] at h
    cases h₁ : e₁.eval vars with
    | error r => rw [h₁] at h; cases h; exact Expr.eval_error h₁
    | ok v₁ =>
      cases h₂ : e₂.eval vars with
      | error r => rw [h₁, h₂] at h; cases h; exact Expr.eval_error h₂
      | ok v₂ =>
        rw [h₁, h₂] at h
        cases rel <;> simp [evalComparison, Comparison.toOperator] at h
  | and c₁ c₂ ih₁ ih₂ | or c₁ c₂ ih₁ ih₂ =>
    simp only [Cond.eval, bind, Except.bind, pure, Except.pure] at h
    cases h₁ : c₁.eval vars with
    | error r => rw [h₁] at h; cases h; exact ih₁ h₁
    | ok r₁ =>
      cases h₂ : c₂.eval vars with
      | error r => rw [h₁, h₂] at h; cases h; exact ih₂ h₂
      | ok r₂ => rw [h₁, h₂] at h; cases h

theorem lvmExecute_eq_true :
    lvmExecute vars c.emit = some .lvmTrue ↔ c.eval vars = .ok true := by
  rw [lvmExecute_emit]
  cases h : c.eval vars with
  | ok r => cases r <;> simp
  | error s =>
    have := Cond.eval_error h
    subst this
    simp

/-! ## Derivation -/

/-- `derivation_t`. -/
structure Derivation where
  max : Int
  min : Int
  derived : Bool
  deriving DecidableEq, Repr

abbrev Derivations := Nat → Derivation

def Derivations.zero : Derivations := fun _ => ⟨0, 0, false⟩

/-- The loop of `create_intersection` and `create_union`: a variable derived on one side only
gets that side's range, one derived on both the bounds `both` gives (`min`, `max`), one
derived on neither keeps its entry in `result`. -/
def createDerivations (both : Derivation → Derivation → Int × Int)
    (result d₁ d₂ : Derivations) : Derivations := fun i =>
  if i < lvmMaxVariableId then
    if !(d₁ i).derived && !(d₂ i).derived then result i
    else if (d₁ i).derived && !(d₂ i).derived then ⟨(d₁ i).max, (d₁ i).min, true⟩
    else if !(d₁ i).derived && (d₂ i).derived then ⟨(d₂ i).max, (d₂ i).min, true⟩
    else ⟨(both (d₁ i) (d₂ i)).2, (both (d₁ i) (d₂ i)).1, true⟩
  else result i

def createIntersection : Derivations → Derivations → Derivations → Derivations :=
  createDerivations fun d₁ d₂ =>
    (if d₁.min > d₂.min then d₁.min else d₂.min, if d₁.max < d₂.max then d₁.max else d₂.max)

def createUnion : Derivations → Derivations → Derivations → Derivations :=
  createDerivations fun d₁ d₂ =>
    (if d₁.min > d₂.min then d₂.min else d₁.min, if d₁.max < d₂.max then d₂.max else d₁.max)

/-- The range a comparison gives its variable, from the defaults `DB_LONG_MIN` and
`DB_LONG_MAX`; `LVM_NEQ` and the arithmetic operators give none. -/
def comparisonRange (op : Operator) (value : Int) : Option Derivation :=
  match op with
  | .eq => some ⟨value, value, true⟩
  | .ge => some ⟨dbLongMax, long32 (value + 1), true⟩
  | .geq => some ⟨dbLongMax, value, true⟩
  | .le => some ⟨long32 (value - 1), dbLongMin, true⟩
  | .leq => some ⟨value, dbLongMin, true⟩
  | _ => none

/-- The comparison case of `derive_relation`: the variable is the first operand if that is
one, else the second -- for two constants, the low byte of the second (`value.id`, read from
the union of a little-endian target) -- and the constant is the other operand. -/
def deriveComparison (op : Operator) (o₀ o₁ : Operand) (localDerivations : Derivations) :
    Except LvmStatus Derivations :=
  let derive (variableId : Nat) (value : Int) : Except LvmStatus Derivations :=
    if variableId ≥ lvmMaxVariableId then .error .derivationError
    else
      match comparisonRange op value with
      | some d => .ok (Function.update localDerivations variableId d)
      | none => .error .derivationError
  match o₀, o₁ with
  | .var _, .var _ => .error .derivationError
  | .var id, .long value => derive id value
  | .long value, .var id => derive id value
  | .long value, .long l => derive (l % 256).toNat value

/-- `derive_relation(p, localDerivationsderivations)`: the node type before the operator is not
checked; each side of a connective is derived into a zeroed table, the second only if the
first succeeded. -/
def deriveRelation : Nat → List Cell → Derivations →
    Option (Except LvmStatus (Derivations × List Cell))
  | 0, _, _ => none
  | fuel + 1, .type _ :: .operator op :: code, localDerivations =>
    if op.isConnective then
      if op ≠ .and ∧ op ≠ .or then some (.error .derivationError)
      else
        match deriveRelation fuel code Derivations.zero with
        | some (.ok (d₁, code)) =>
          match deriveRelation fuel code Derivations.zero with
          | some (.ok (d₂, code)) =>
            some (.ok (if op = .and then createIntersection localDerivations d₁ d₂
              else createUnion localDerivations d₁ d₂, code))
          | some (.error _) => some (.error .derivationError)
          | none => none
        | some (.error _) => some (.error .derivationError)
        | none => none
    else
      match code with
      | .type .operand :: .operand o₀ :: .type .operand :: .operand o₁ :: code =>
        some ((deriveComparison op o₀ o₁ localDerivations).map fun d => (d, code))
      | .type .operand :: .operand _ :: .type .operand :: _ => none
      | .type .operand :: .operand _ :: .type _ :: _ => some (.error .derivationError)
      | .type .operand :: _ => none
      | .type _ :: _ => some (.error .derivationError)
      | _ => none
  | _ + 1, _, _ => none

/-- `lvm_derive(p)`, into the table `p->derivations`. -/
def lvmDerive (code : List Cell) (derivations : Derivations) :
    Option (Except LvmStatus Derivations) :=
  (deriveRelation code.length code derivations).map (Except.map Prod.fst)

/-- `lvm_get_derived_range(p, name, min, max)` for the variable of index `i`. -/
def lvmGetDerivedRange (derivations : Derivations) (i : Nat) : Except LvmStatus (Int × Int) :=
  if i < lvmMaxVariableId then
    if (derivations i).derived then .ok ((derivations i).min, (derivations i).max)
    else .error .derivationError
  else .error .invalidIdentifier

/-! ## Soundness of the derived ranges -/

/-- The ranges of a table, as `lvm_get_derived_range` hands them out. -/
def Derivations.box (d : Derivations) : IntervalBox Nat Int := fun i =>
  if i < lvmMaxVariableId ∧ (d i).derived then some ((d i).min, (d i).max) else none

theorem lvmGetDerivedRange_eq_ok {d : Derivations} {i : Nat} {lo hi : Int} :
    lvmGetDerivedRange d i = .ok (lo, hi) ↔ d.box i = some (lo, hi) := by
  unfold lvmGetDerivedRange Derivations.box
  by_cases bound : i < lvmMaxVariableId <;> by_cases derived : (d i).derived <;>
    simp [bound, derived]

theorem box_createIntersection (d₁ d₂ : Derivations) :
    (createIntersection Derivations.zero d₁ d₂).box = IntervalBox.meet d₁.box d₂.box := by
  funext i
  unfold createIntersection createDerivations Derivations.box IntervalBox.meet
  by_cases bound : i < lvmMaxVariableId
  · cases h₁ : (d₁ i).derived <;> cases h₂ : (d₂ i).derived <;>
      simp [bound, h₁, h₂, Derivations.zero]
    -- both sides derived: the two comparisons of the C code pick `max` and `min`
    constructor <;> split <;> omega
  · simp [bound]

/-- On a zeroed table `create_union` is the hull of the two sides where both sides derive the
same variables; a variable derived on one side only keeps that side's range. -/
theorem box_createUnion {d₁ d₂ : Derivations}
    (agree : ∀ i, (d₁.box i).isSome = (d₂.box i).isSome) :
    (createUnion Derivations.zero d₁ d₂).box = IntervalBox.join d₁.box d₂.box := by
  funext i
  have same := agree i
  unfold createUnion createDerivations Derivations.box IntervalBox.join at *
  by_cases bound : i < lvmMaxVariableId
  · cases h₁ : (d₁ i).derived <;> cases h₂ : (d₂ i).derived <;>
      simp_all [Derivations.zero]
    -- a variable derived on one side only contradicts `agree`; on both, the hull
    constructor <;> split <;> omega
  · simp [bound]

/-- The variable whose range a comparison derives, in the fragment below. -/
def Cond.Constrains : Cond → Nat → Prop
  | .cmp _ (.operand (.var id)) _, i => id = i
  | .cmp _ _ _, _ => False
  | .and c₁ c₂, i | .or c₁ c₂, i => c₁.Constrains i ∨ c₂.Constrains i

/-- The conditions whose derived ranges hold every valuation that satisfies them: each
comparison has the variable on the left, is not `<>` and compares with a `long`, and the
two sides of each OR constrain the same variables. -/
inductive Cond.RangeSafe : Cond → Prop
  | cmp {rel : Comparison} {id : Nat} {k : Int} (bound : id < lvmMaxVariableId)
      (notNeq : rel ≠ .neq) (long : -2 ^ 31 ≤ k ∧ k < 2 ^ 31) :
      Cond.RangeSafe (.cmp rel (.operand (.var id)) (.operand (.long k)))
  | and {c₁ c₂ : Cond} : c₁.RangeSafe → c₂.RangeSafe → Cond.RangeSafe (.and c₁ c₂)
  | or {c₁ c₂ : Cond} : c₁.RangeSafe → c₂.RangeSafe → (∀ i, c₁.Constrains i ↔ c₂.Constrains i) →
      Cond.RangeSafe (.or c₁ c₂)

theorem comparisonRange_toOperator {rel : Comparison} (notNeq : rel ≠ .neq) (k : Int) :
    ∃ d, comparisonRange rel.toOperator k = some d ∧ d.derived = true := by
  cases rel <;> simp_all [comparisonRange, Comparison.toOperator]

theorem comparisonRange_sound {rel : Comparison} {k v : Int} {d : Derivation}
    (range : comparisonRange rel.toOperator k = some d) (long : -2 ^ 31 ≤ k ∧ k < 2 ^ 31)
    (inLong : dbLongMin ≤ v ∧ v ≤ dbLongMax)
    (holds : evalComparison rel.toOperator v k = .ok true) : d.min ≤ v ∧ v ≤ d.max := by
  simp only [dbLongMin, dbLongMax] at inLong
  cases rel <;>
    simp only [comparisonRange, evalComparison, Comparison.toOperator, Option.some.injEq,
      Except.ok.injEq, decide_eq_true_eq, reduceCtorEq] at range holds
  all_goals subst range
  all_goals simp only [long32, dbLongMin, dbLongMax]
  all_goals first | omega | (rw [Int.bmod_def]; split <;> omega)

theorem Cond.eval_and_eq_ok_true {c₁ c₂ : Cond}
    (holds : (Cond.and c₁ c₂).eval vars = .ok true) :
    c₁.eval vars = .ok true ∧ c₂.eval vars = .ok true := by
  simp only [Cond.eval, bind, Except.bind, pure, Except.pure] at holds
  cases h₁ : c₁.eval vars <;> cases h₂ : c₂.eval vars <;> simp_all

theorem Cond.eval_or_eq_ok_true {c₁ c₂ : Cond}
    (holds : (Cond.or c₁ c₂).eval vars = .ok true) :
    c₁.eval vars = .ok true ∨ c₂.eval vars = .ok true := by
  simp only [Cond.eval, bind, Except.bind, pure, Except.pure] at holds
  cases h₁ : c₁.eval vars <;> cases h₂ : c₂.eval vars <;> simp_all

theorem box_update_zero {id : Nat} (bound : id < lvmMaxVariableId) {d : Derivation}
    (derived : d.derived = true) (i : Nat) :
    Derivations.box (Function.update Derivations.zero id d) i =
      if i = id then some (d.min, d.max) else none := by
  by_cases same : i = id
  · subst same
    simp [Derivations.box, bound, derived]
  · simp [Derivations.box, same, Derivations.zero]

/-- `derive_relation` on the code of a condition of the fragment, followed by any code: it
succeeds, derives exactly the variables the condition constrains, and its ranges hold every
valuation above `LONG_MIN` that satisfies the condition. Induction on the fragment; at each
connective both sides start from a zeroed table. -/
theorem deriveRelation_emit (safe : c.RangeSafe) (rest : List Cell)
    (enough : c.emit.length ≤ fuel) :
    ∃ d, deriveRelation fuel (c.emit ++ rest) Derivations.zero = some (.ok (d, rest)) ∧
      (∀ i, (d.box i).isSome ↔ c.Constrains i) ∧
      ∀ vars : Nat → Int, (∀ i, dbLongMin ≤ vars i ∧ vars i ≤ dbLongMax) →
        c.eval vars = .ok true → vars ∈ d.box.toSet := by
  induction safe generalizing rest fuel with
  | @cmp rel id k bound notNeq long =>
    obtain ⟨fuel, rfl⟩ : ∃ f, fuel = f + 1 :=
      ⟨fuel - 1, by simp [Cond.emit, Cond.body, Expr.emit] at enough; omega⟩
    obtain ⟨d, range, derived⟩ := comparisonRange_toOperator notNeq k
    refine ⟨Function.update Derivations.zero id d, ?_, ?_, ?_⟩
    · simp [Cond.emit, Cond.body, Expr.emit, deriveRelation, Comparison.isConnective_toOperator,
        deriveComparison, Nat.not_le.mpr bound, range, Except.map]
    · intro i
      rw [box_update_zero bound derived]
      by_cases same : i = id
      · simp [same, Cond.Constrains]
      · simp [same, Cond.Constrains, Ne.symm same]
    · intro vars inLong holds i lo hi hbox
      rw [box_update_zero bound derived] at hbox
      split at hbox
      · next same =>
        subst same
        cases hbox
        have : evalComparison rel.toOperator (vars i) k = .ok true := by
          simpa [Cond.eval, Expr.eval, operandToLong, bind, Except.bind] using holds
        exact comparisonRange_sound range long (inLong i) this
      · cases hbox
  | @and c₁ c₂ _ _ ih₁ ih₂ =>
    have length : c₁.emit.length + c₂.emit.length + 2 ≤ fuel := by
      simp only [Cond.length_emit, Cond.body, List.length_append, List.length_cons] at enough ⊢
      omega
    obtain ⟨fuel, rfl⟩ : ∃ f, fuel = f + 1 := ⟨fuel - 1, by omega⟩
    obtain ⟨d₁, run₁, constrains₁, sound₁⟩ := ih₁ (c₂.emit ++ rest) (show c₁.emit.length ≤ fuel by omega)
    obtain ⟨d₂, run₂, constrains₂, sound₂⟩ := ih₂ rest (show c₂.emit.length ≤ fuel by omega)
    refine ⟨createIntersection Derivations.zero d₁ d₂, ?_, ?_, ?_⟩
    · rw [Cond.emit_and]
      simp [deriveRelation, Operator.isConnective, run₁, run₂]
    · intro i
      rw [box_createIntersection, IntervalBox.isSome_meet, constrains₁, constrains₂]
      rfl
    · intro vars inLong holds
      obtain ⟨holds₁, holds₂⟩ := Cond.eval_and_eq_ok_true holds
      rw [box_createIntersection, IntervalBox.toSet_meet]
      exact ⟨sound₁ vars inLong holds₁, sound₂ vars inLong holds₂⟩
  | @or c₁ c₂ _ _ same ih₁ ih₂ =>
    have length : c₁.emit.length + c₂.emit.length + 2 ≤ fuel := by
      simp only [Cond.length_emit, Cond.body, List.length_append, List.length_cons] at enough ⊢
      omega
    obtain ⟨fuel, rfl⟩ : ∃ f, fuel = f + 1 := ⟨fuel - 1, by omega⟩
    obtain ⟨d₁, run₁, constrains₁, sound₁⟩ := ih₁ (c₂.emit ++ rest) (show c₁.emit.length ≤ fuel by omega)
    obtain ⟨d₂, run₂, constrains₂, sound₂⟩ := ih₂ rest (show c₂.emit.length ≤ fuel by omega)
    -- both sides derive the same variables, so `create_union` is the hull
    have agree : ∀ i, (d₁.box i).isSome = (d₂.box i).isSome := by
      intro i
      rw [Bool.eq_iff_iff, constrains₁, constrains₂, same]
    refine ⟨createUnion Derivations.zero d₁ d₂, ?_, ?_, ?_⟩
    · rw [Cond.emit_or]
      simp [deriveRelation, Operator.isConnective, run₁, run₂]
    · intro i
      rw [box_createUnion agree, IntervalBox.isSome_join, constrains₁, constrains₂, same]
      simp [Cond.Constrains, same]
    · intro vars inLong holds
      rw [box_createUnion agree]
      rcases Cond.eval_or_eq_ok_true holds with holds₁ | holds₂
      · exact IntervalBox.toSet_join_left _ _ (sound₁ vars inLong holds₁)
      · exact IntervalBox.toSet_join_right _ _ (sound₂ vars inLong holds₂)

theorem lvmDerive_sound (safe : c.RangeSafe) :
    ∃ d, lvmDerive c.emit Derivations.zero = some (.ok d) ∧
      ∀ vars : Nat → Int, (∀ i, dbLongMin ≤ vars i ∧ vars i ≤ dbLongMax) →
        lvmExecute vars c.emit = some .lvmTrue →
          ∀ i lo hi, lvmGetDerivedRange d i = .ok (lo, hi) → lo ≤ vars i ∧ vars i ≤ hi := by
  obtain ⟨d, run, -, sound⟩ := deriveRelation_emit safe [] (le_refl c.emit.length)
  rw [List.append_nil] at run
  refine ⟨d, by simp [lvmDerive, run, Except.map], fun vars inLong holds i lo hi range => ?_⟩
  exact sound vars inLong (lvmExecute_eq_true.mp holds) i lo hi (lvmGetDerivedRange_eq_ok.mp range)

theorem lvmDerive_sound_ge :
    ∃ d, lvmDerive (Cond.cmp .ge (.operand (.var 0)) (.operand (.long 5))).emit Derivations.zero =
        some (.ok d) ∧
      ∀ vars : Nat → Int, (∀ i, dbLongMin ≤ vars i ∧ vars i ≤ dbLongMax) →
        lvmExecute vars (Cond.cmp .ge (.operand (.var 0)) (.operand (.long 5))).emit = some .lvmTrue →
          ∀ i lo hi, lvmGetDerivedRange d i = .ok (lo, hi) → lo ≤ vars i ∧ vars i ≤ hi :=
  lvmDerive_sound (.cmp (by decide) (by decide) (by decide))

/-- Outside the fragment the derived range of `a` (variable 0) misses a valuation under which
`lvm_execute` returns `LVM_TRUE`: `10 < a`, compiled as `LVM_LE(10, a)`, derives `a < 10` and
misses `a = 11`; `a = 1 OR b = 2` keeps `a = 1` from the one side that constrains `a` and
misses `a = 5, b = 2`; and `a < 10` starts from `DB_LONG_MIN = LONG_MIN + 1` and misses
`a = LONG_MIN`. -/
theorem lvmDerive_misses_matches :
    (lvmDerive (Cond.cmp .le (.operand (.long 10)) (.operand (.var 0))).emit Derivations.zero).map
        (Except.map (lvmGetDerivedRange · 0)) = some (.ok (.ok (dbLongMin, 9))) ∧
      lvmExecute (fun _ => 11) (Cond.cmp .le (.operand (.long 10)) (.operand (.var 0))).emit =
        some .lvmTrue ∧
      (lvmDerive (Cond.or (.cmp .eq (.operand (.var 0)) (.operand (.long 1)))
          (.cmp .eq (.operand (.var 1)) (.operand (.long 2)))).emit Derivations.zero).map
        (Except.map (lvmGetDerivedRange · 0)) = some (.ok (.ok (1, 1))) ∧
      lvmExecute (fun i => if i = 0 then 5 else 2)
          (Cond.or (.cmp .eq (.operand (.var 0)) (.operand (.long 1)))
            (.cmp .eq (.operand (.var 1)) (.operand (.long 2)))).emit = some .lvmTrue ∧
      (lvmDerive (Cond.cmp .le (.operand (.var 0)) (.operand (.long 10))).emit Derivations.zero).map
        (Except.map (lvmGetDerivedRange · 0)) = some (.ok (.ok (dbLongMin, 9))) ∧
      lvmExecute (fun _ => -2 ^ 31) (Cond.cmp .le (.operand (.var 0)) (.operand (.long 10))).emit =
        some .lvmTrue := by
  decide

end TinyAra.Arastorage
