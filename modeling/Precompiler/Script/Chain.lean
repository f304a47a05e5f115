import Precompiler.Script.Collections

/-! Chains.

The steps of a chain are evaluated first, and then followed from a value into its parts. What
the last one changes is put back on the way out, up to the variable where the chain starts. -/
namespace Precompiler.Script

open Run

namespace Context

variable (ctx : Context)

/-- A step of a chain whose parts are evaluated. -/
inductive Access where
  | index (place : Value) (isOptional : Bool)
  | property (name : String) (isOptional : Bool)
  | method (name : String) (arguments : List Value) (isOptional : Bool)

def Access.isOptional : Access → Bool
  | .index _ o | .property _ o | .method _ _ o => o

def access : Step → Run Access
  | .index place o => do return .index (← ctx.run place) o
  | .property name o => return .property name o
  | .method name arguments o => do return .method name (← arguments.mapM ctx.run) o

/-- What stands at a place; a part of a text or of the bits of a number, at a range of places. -/
def getIndex (target place : Value) : Run Value := do
  match target, place with
  | .array xs, .int i => ofOption ((Value.place? xs.length i).bind (xs[·]?))
  | .map fields, .string key => return (fields.lookup key).getD .unit
  | .string s, .int i => do
    let chars := s.toList
    return .char (← ofOption ((Value.place? chars.length i).bind (chars[·]?)))
  | .int n, .int i => do
    let p ← ofOption (Value.place? 64 i)
    return .bool (Operator.bits n / Nat.pow 2 p % 2 == 1)
  | .string s, .range low high isInclusive => do
    let chars := s.toList
    discard (ofOption (if low < 0 || high < 0 then none else Value.place? chars.length low))
    let (start, count) := Value.span chars.length low high isInclusive
    return .string (String.ofList ((chars.drop start).take count))
  | .int n, .range low high isInclusive => do
    discard (ofOption (if low < 0 || high < 0 then none else Value.place? 64 low))
    let (start, count) := Value.span 64 low high isInclusive
    return .int (Operator.ofBits (Operator.bits n / Nat.pow 2 start % Nat.pow 2 count))
  | _, _ => fault

def setIndex (target place v : Value) : Run Value := do
  match target, place, v with
  | .array xs, .int i, v => do return .array (xs.set (← ofOption (Value.place? xs.length i)) v)
  | .map fields, .string key, v => return .map (Value.setField key v fields)
  | .string s, .int i, .char c => do
    let chars := s.toList
    return .string (String.ofList (chars.set (← ofOption (Value.place? chars.length i)) c))
  | .int n, .int i, .bool b => do
    let p ← ofOption (Value.place? 64 i)
    let bit := Operator.bits n / Nat.pow 2 p % 2
    return .int (Operator.ofBits (Operator.bits n - bit * Nat.pow 2 p + if b then Nat.pow 2 p else 0))
  | _, _, _ => fault

/-- A property: a field of a map, or what a function without arguments gives. -/
def getProperty (target : Value) (name : String) : Run Value := do
  match target with
  | .map fields => return (fields.lookup name).getD .unit
  | _ =>
    if (Library.getters target.kind).contains name then
      return (← ofOption (Library.call? name target [])).result
    else fault

/-- A value with another property; only maps can have it. -/
def setProperty (target : Value) (name : String) (v : Value) : Run Value := do
  match target with
  | .map fields => return .map (Value.setField name v fields)
  | _ => fault

/-- Follows a chain from a value: where it leads, and what becomes of the value if that
changes. -/
def walk (target : Value) : List Access → Run (Value × Option Value)
  | [] => return (target, none)
  | a :: rest => do
    if a.isOptional && target.isUnit then return (.unit, none)
    match a with
    | .index place _ =>
      let (result, changed) ← walk (← getIndex target place) rest
      return (result, ← changed.mapM (setIndex target place))
    | .property name _ =>
      let (result, changed) ← walk (← getProperty target name) rest
      return (result, ← changed.mapM (setProperty target name))
    | .method name arguments _ =>
      let answer ← ctx.ask target name arguments
      let (result, _) ← walk answer.result rest
      return (result, answer.changed)

def replaceAt (change : Value → Run Value) (target : Value) : List Access → Run Value
  | [] => change target
  | a :: rest => do
    if a.isOptional && target.isUnit then return target
    match a with
    | .index place _ =>
      let old ← match target, rest with
        | .map fields, [] => match place with
          | .string key => pure ((fields.lookup key).getD .unit)
          | _ => fault
        | _, _ => getIndex target place
      setIndex target place (← replaceAt change old rest)
    | .property name _ =>
      setProperty target name (← replaceAt change (← getProperty target name) rest)
    | .method .. => fault

def theReceiver : Run Value := do ofOption (← get).receiver

/-- The value of a chain. What it changes is stored where the chain starts. -/
def chain (root : Expr) (steps : List Step) : Run Value := do
  let accesses ← steps.mapM ctx.access
  match root with
  | .variable name =>
    let (result, changed) ← ctx.walk (← ctx.read name) accesses
    changed.forM (write name)
    return result
  | .this =>
    let (result, changed) ← ctx.walk (← theReceiver) accesses
    changed.forM fun v => modify fun m => { m with receiver := some v }
    return result
  | root => return (← ctx.walk (← ctx.run root) accesses).1

def change (place : Expr) (f : Value → Run Value) : Run Unit := do
  match place with
  | .variable name =>
    if (← lookup? name).isNone then fault
    write name (← f (← ctx.read name))
  | .chain (.variable name) steps =>
    let accesses ← steps.mapM ctx.access
    write name (← replaceAt f (← ctx.read name) accesses)
  | .chain .this steps =>
    let accesses ← steps.mapM ctx.access
    let v ← replaceAt f (← theReceiver) accesses
    modify fun m => { m with receiver := some v }
  | _ => fault

end Context

end Precompiler.Script
