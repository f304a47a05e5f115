import Precompiler.Script.Value

/-! The machine that hook scripts run on.

It holds the variables in scope, the cells of captured variables, and what has been printed.
Every step is counted, and a script that takes too many of them, or calls functions within
functions too deep, is stopped for good. Any other failure can be caught. -/
namespace Precompiler.Script

structure Binding where
  name : String
  value : Value
  isConstant : Bool

/-- The state of a run. -/
structure Machine where
  /-- The variables of the present function, latest first. -/
  scope : List Binding
  cells : Array Value
  receiver : Option Value
  steps : Nat
  level : Nat
  /-- The printed lines, latest first. -/
  printed : List String

/-- What interrupts a run. -/
inductive Signal where
  | leave (value : Value)
  | nextRound
  | giveBack (value : Value)
  /-- The script is over, in whatever function it is. -/
  | quit (value : Value)
  /-- A failure that can be caught, with the value that is caught. -/
  | thrown (value : Value)
  /-- A limit has been reached. -/
  | stopped

/-- A part of a run. What it does to the machine stays done even if it is interrupted. -/
abbrev Run := ExceptT Signal (StateM Machine)

/-- A script takes at most so many steps. -/
def maxSteps : Nat := 1000000

/-- Functions are called within functions at most so deep. -/
def maxCalls : Nat := 64

namespace Run

/-- A failure that can be caught. -/
def fault {α : Type} : Run α := throw (.thrown (.map [("message", .string "")]))

/-- A value, or a failure. -/
def ofOption {α : Type} : Option α → Run α
  | some a => pure a
  | none => fault

def tick : Run Unit := do
  let steps := (← get).steps + 1
  if steps > maxSteps then throw .stopped
  modify fun m => { m with steps }

def print (line : String) : Run Unit := modify fun m => { m with printed := line :: m.printed }

/-- Does something, and then, whether it is interrupted or not, changes the machine. -/
def andThen {α : Type} (run : Run α) (after : Machine → Machine) : Run α := do
  let (result, m) := run.run.run (← get)
  set (after m)
  match result with
  | .ok a => return a
  | .error signal => throw signal

/-! ### Variables -/

/-- The value behind a captured variable's cell. -/
def contents (v : Value) : Run Value := do
  match v with
  | .cell n => return (← get).cells.getD n .unit
  | v => return v

def lookup? (name : String) : Run (Option Binding) := do
  return (← get).scope.find? (·.name == name)

def bind (name : String) (value : Value) (isConstant : Bool) : Run Unit :=
  modify fun m => { m with scope := ⟨name, value, isConstant⟩ :: m.scope }

/-- Bindings with the value of the first of a name replaced. -/
def rebind (name : String) (value : Value) : List Binding → List Binding
  | [] => []
  | b :: rest => if b.name == name then { b with value } :: rest else b :: rebind name value rest

/-- Gives a variable a new value. -/
def write (name : String) (value : Value) : Run Unit := do
  match ← lookup? name with
  | none => fault
  | some b =>
    if b.isConstant then fault
    match b.value with
    | .cell n => modify fun m => { m with cells := m.cells.setIfInBounds n value }
    | _ => modify fun m => { m with scope := rebind name value m.scope }

/-- The variables that are bound meanwhile end with what is done. -/
def locally {α : Type} (run : Run α) : Run α := do
  let depth := (← get).scope.length
  andThen run fun m => { m with scope := m.scope.drop (m.scope.length - depth) }

end Run

end Precompiler.Script
