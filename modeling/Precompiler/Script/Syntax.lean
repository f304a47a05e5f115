import Precompiler.Script.Operator

/-! What hook scripts are made of.

Everything is an expression: a declaration or a loop has a value too, mostly the unit. A
*chain* is a root followed by steps, each of which leads from a value into it or asks it
for something; what a chain leads to can be changed in place. -/
namespace Precompiler.Script

mutual

inductive Expr where
  | literal (value : Value)
  | template (parts : List Expr)
  | array (elements : List Expr)
  | map (fields : List (String × Expr))
  | variable (name : String)
  | this
  | chain (root : Expr) (steps : List Step)
  | call (name : String) (arguments : List Expr)
  | operation (op : Operator) (a b : Expr)
  | both (a b : Expr)
  | either (a b : Expr)
  /-- The second value in place of the unit. -/
  | orElse (a b : Expr)
  | isIn (a b : Expr) (isNegated : Bool)
  | negated (a : Expr)
  | unchanged (a : Expr)
  | opposite (a : Expr)
  /-- A function without a name of its own, and the variables it has from outside. -/
  | closure (name : String) (captured : List String)
  | block (statements : List Expr)
  | declare (name : String) (value : Expr) (isConstant : Bool)
  | assign (target : Expr) (op : Option Operator) (value : Expr)
  /-- An assignment that only replaces the unit. -/
  | assignMissing (target value : Expr)
  | conditional (test yes no : Expr)
  | choice (subject : Expr) (branches : List Branch) (otherwise : Expr)
  /-- A body for as long as a test comes out as wished. -/
  | loop (test : Expr) (wish : Bool) (body : Expr)
  /-- A body once, and then for as long as a test comes out as wished. -/
  | loopOnce (body test : Expr) (wish : Bool)
  | each (item : String) (counter : Option String) (source body : Expr)
  | leave (value : Expr)
  | nextRound
  | giveBack (value : Expr)
  | raise (value : Expr)
  | attempt (body : Expr) (name : Option String) (handler : Expr)

/-- A step of a chain. An optional one ends the chain at the unit. -/
inductive Step where
  | index (place : Expr) (isOptional : Bool)
  | property (name : String) (isOptional : Bool)
  | method (name : String) (arguments : List Expr) (isOptional : Bool)

/-- A branch of a choice: the values it is for, a condition, and what it does. -/
inductive Branch where
  | mk (values : List Value) (guard : Option Expr) (body : Expr)

end

/-- A function. What it captures comes before its parameters. -/
structure Function where
  name : String
  parameters : List String
  body : Expr

namespace Expr

/-- The expression that does nothing. -/
def idle : Expr := .literal .unit

mutual

/-- Whether an expression can do nothing but give its value. Where that is not wanted, it
is left out. -/
def isPure : Expr → Bool
  | .literal _ | .variable _ => true
  | .template parts => arePure parts
  | .array elements => arePure elements
  | .map fields => fieldsArePure fields
  | .both a b | .either a b | .orElse a b => a.isPure && b.isPure
  | .block statements => arePure statements
  | .conditional test yes no => test.isPure && yes.isPure && no.isPure
  | _ => false

def arePure : List Expr → Bool
  | [] => true
  | e :: rest => e.isPure && arePure rest

def fieldsArePure : List (String × Expr) → Bool
  | [] => true
  | (_, e) :: rest => e.isPure && fieldsArePure rest

end

mutual

/-- An expression as it is run where nobody asks for its value. -/
def unasked : Expr → Expr
  | .block statements => .block (unaskedEnd statements)
  | .conditional test yes no => .conditional test yes.unasked no.unasked
  | e => e

/-- Statements without those at the end that can do nothing but give a value. -/
def unaskedEnd : List Expr → List Expr
  | [] => []
  | e :: rest =>
    match unaskedEnd rest with
    | [] => if e.isPure then [] else [e.unasked]
    | more => e :: more

end

/-- The value of an expression, if it is known before the script runs: a literal, or an operation
on literals. -/
def known? : Expr → Option Value
  | .literal v => some v
  | .operation op a b =>
    match a.known?, b.known? with
    | some v, some w => op.result? v w
    | _, _ => none
  | _ => none

/-- One thing and another. If the truth of one of them is known, the other one alone decides,
whatever its value is. -/
def conjunction (a b : Expr) : Expr :=
  match a.known?, b.known? with
  | some (.bool true), _ => b
  | some (.bool false), _ => .literal (.bool false)
  | _, some (.bool true) => a
  | _, _ => .both a b

/-- One thing or another. If the truth of one of them is known, the other one alone decides,
whatever its value is. -/
def disjunction (a b : Expr) : Expr :=
  match a.known?, b.known? with
  | some (.bool false), _ => b
  | some (.bool true), _ => .literal (.bool true)
  | _, some (.bool false) => a
  | _, _ => .either a b

/-- An assignment. A variable that is given the outcome of an operation on itself is changed in
place. -/
def assignment (target value : Expr) : Expr :=
  match target, value with
  | .variable x, .operation op (.variable y) b =>
    if x == y && op.changesInPlace then .assign target (some op) b else .assign target none value
  | _, _ => .assign target none value

def isEmptyBlock : Expr → Bool
  | .block [] | .literal .unit => true
  | _ => false

/-- A choice between two blocks. If both are empty, it does not matter how the test comes out. -/
def choiceOf (test yes no : Expr) : Expr :=
  if yes.isEmptyBlock && no.isEmptyBlock then .block [test, idle] else .conditional test yes no

/-- Whether a chain can be assigned to: it starts at a variable, and no step of it is a
method. -/
def isPlace : Expr → Bool
  | .variable _ => true
  | .chain (.variable _) steps | .chain .this steps => steps.all fun
    | .method .. => false
    | _ => true
  | _ => false

end Expr

end Precompiler.Script

/-- A script that has been read. -/
structure Precompiler.Script where
  body : Precompiler.Script.Expr
  functions : List Precompiler.Script.Function
