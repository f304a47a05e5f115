import Precompiler.Script.Library
import Precompiler.Script.Machine
import Precompiler.Script.Syntax

/-! Calls.

A function runs with its own variables; what it makes of its receiver comes back with its
result. How an expression is evaluated is a parameter. -/
namespace Precompiler.Script

open Run

/-- What expressions are evaluated with: the functions of the script, and how an expression
within another one is evaluated. -/
structure Context where
  functions : List Function
  run : Expr → Run Value

namespace Context

variable (ctx : Context)

/-- The value of a variable, or the function of that name. -/
def read (name : String) : Run Value := do
  match ← lookup? name with
  | some b => contents b.value
  | none =>
    if ctx.functions.any (·.name == name) then return .function name [] else fault

/-- The function of a name with so many parameters. -/
def function? (name : String) (arity : Nat) : Option Function :=
  ctx.functions.find? fun f => f.name == name && f.parameters.length == arity

/-! ### Calls -/

/-- Calls a function on arguments and a receiver, and gives what becomes of the receiver. -/
def invoke (f : Function) (arguments : List Value) (receiver : Option Value) :
    Run (Value × Option Value) := do
  let outer ← get
  if outer.level ≥ maxCalls then throw .stopped
  tick
  set { outer with
    scope := (f.parameters.zip arguments).reverse.map fun (name, v) => ⟨name, v, false⟩
    receiver
    level := outer.level + 1
    steps := (← get).steps }
  let (result, m) := (ctx.run f.body).run.run (← get)
  set { m with scope := outer.scope, receiver := outer.receiver, level := outer.level }
  match result with
  | .ok v | .error (.giveBack v) => return (v, m.receiver)
  | .error signal => throw signal

/-- Calls what a function value stands for. -/
def applyOn (f : Value) (arguments : List Value) (receiver : Option Value) :
    Run (Value × Option Value) := do
  match f with
  | .function name curried =>
    let all := curried ++ arguments
    match ctx.function? name all.length with
    | some g => ctx.invoke g all receiver
    | none =>
      match all with
      | first :: rest =>
        let first ← contents first
        let answer ← ofOption (Library.call? name first rest)
        return (answer.result, receiver)
      | [] => fault
  | _ => fault

def apply (f : Value) (arguments : List Value) : Run Value := do
  return (← ctx.applyOn f arguments none).1

/-- Calls a function value on an element: as the receiver if it takes no argument, and with
further arguments if it takes them. -/
def applyToElement (f : Value) (before : List Value) (element : Value) (extra : Value) :
    Run (Value × Option Value) := do
  match f with
  | .function name curried =>
    let count := curried.length + before.length
    if (ctx.function? name (count + 1)).isSome then ctx.applyOn f (before ++ [element]) none
    else if (ctx.function? name (count + 2)).isSome then
      ctx.applyOn f (before ++ [element, extra]) none
    else if (ctx.function? name count).isSome then ctx.applyOn f before (some element)
    else ctx.applyOn f (before ++ [element]) none
  | _ => fault

/-- A truth value, or a failure. -/
def truth (v : Value) : Run Bool := do
  match v with
  | .bool b => return b
  | _ => fault

def accepts (f : Value) (element : Value) (place : Nat) : Run Bool := do
  truth (← ctx.applyToElement f [] element (.int place)).1

end Context

end Precompiler.Script
