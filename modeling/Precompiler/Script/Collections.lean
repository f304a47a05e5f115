import Precompiler.Script.Calls
import Precompiler.Script.Token

/-! Functions of arrays and maps that take functions, and how a value is asked for something.

A function is called on one element after another, in order; if it fails, or stops the script,
the others are not reached. -/
namespace Precompiler.Script

open Run

namespace Context

variable (ctx : Context)

/-- The elements that are accepted, and the others. -/
def sift (f : Value) (elements : List Value) : Run (List Value × List Value) := do
  let marked ← elements.zipIdx.mapM fun (v, i) => do return (v, ← ctx.accepts f v i)
  return ((marked.filter (·.2)).map (·.1), (marked.filter (!·.2)).map (·.1))

/-- The first element that is accepted, with its place. -/
def firstAccepted (f : Value) : List (Value × Nat) → Run (Option (Value × Nat))
  | [] => return none
  | (v, i) :: rest => do if ← ctx.accepts f v i then return some (v, i) else firstAccepted f rest

/-- The first result that is not the unit. -/
def firstResult (f : Value) : List (Value × Nat) → Run Value
  | [] => return .unit
  | (v, i) :: rest => do
    let (r, _) ← ctx.applyToElement f [] v (.int i)
    if r.isUnit then firstResult f rest else return r

def allAccepted (f : Value) : List (Value × Nat) → Run Bool
  | [] => return true
  | (v, i) :: rest => do if ← ctx.accepts f v i then allAccepted f rest else return false

/-- Whether one value comes after another, as a function says. -/
def isAfter (f a b : Value) : Run Bool := do
  match ← ctx.apply f [a, b] with
  | .int n => return decide (0 < n)
  | .bool b => return !b
  | _ => return false

/-- A value put into its place among sorted ones, behind those that it does not precede. -/
def insertSorted (f v : Value) : List Value → Run (List Value)
  | [] => return [v]
  | w :: rest => do
    if ← ctx.isAfter f w v then return v :: w :: rest else return w :: (← insertSorted f v rest)

def sortedBy (f : Value) : List Value → Run (List Value)
  | elements => elements.foldlM (fun done v => ctx.insertSorted f v done) []

def folded (f : Value) (initial : Value) (elements : List (Value × Nat)) : Run Value :=
  elements.foldlM (fun r (v, i) => do return (← ctx.applyToElement f [r] v (.int i)).1) initial

/-- The functions of arrays that take functions; none for another name. -/
def onArray? (name : String) (xs : List Value) (f : Value) (more : List Value) :
    Option (Run Answer) :=
  let indexed := xs.zipIdx
  let gives (run : Run Value) : Option (Run Answer) := some do return ⟨← run, none⟩
  match name, more with
  | "map", [] => gives do
    return .array (← indexed.mapM fun (v, i) => do
      return (← ctx.applyToElement f [] v (.int i)).1)
  | "filter", [] => gives do return .array (← ctx.sift f xs).1
  | "all", [] => gives do return .bool (← ctx.allAccepted f indexed)
  | "some", [] => gives do return .bool (← ctx.firstAccepted f indexed).isSome
  | "find", [] => gives do return ((← ctx.firstAccepted f indexed).map (·.1)).getD .unit
  | "find_map", [] => gives (ctx.firstResult f indexed)
  | "index_of", [] => gives do
    return .int (((← ctx.firstAccepted f indexed).map fun (_, i) => (i : Int)).getD (-1))
  | "index_of", [.int start] => gives do
    let found ← ctx.firstAccepted f (indexed.drop (Value.startPlace xs.length start))
    return .int ((found.map fun (_, i) => (i : Int)).getD (-1))
  | "reduce", [] => gives (ctx.folded f .unit indexed)
  | "reduce", [initial] => gives (ctx.folded f initial indexed)
  | "reduce_rev", [] => gives (ctx.folded f .unit indexed.reverse)
  | "reduce_rev", [initial] => gives (ctx.folded f initial indexed.reverse)
  | "for_each", [] => some do
    let changed ← indexed.mapM fun (v, i) => do
      return ((← ctx.applyToElement f [] v (.int i)).2).getD v
    return ⟨.unit, some (.array changed)⟩
  | "sort", [] => some do return ⟨.unit, some (.array (← ctx.sortedBy f xs))⟩
  | "drain", [] => some do
    let (taken, kept) ← ctx.sift f xs
    return ⟨.array taken, some (.array kept)⟩
  | "retain", [] => some do
    let (kept, dropped) ← ctx.sift f xs
    return ⟨.array dropped, some (.array kept)⟩
  | _, _ => none

/-- The fields that are accepted, and the others. -/
def siftFields (f : Value) (fields : List (String × Value)) :
    Run (List (String × Value) × List (String × Value)) := do
  let marked ← fields.mapM fun (name, v) => do
    return ((name, v), ← truth (← ctx.apply f [.string name, v]))
  return ((marked.filter (·.2)).map (·.1), (marked.filter (!·.2)).map (·.1))

/-- The functions of maps that take functions; none for another name. -/
def onMap? (name : String) (fields : List (String × Value)) (f : Value) : Option (Run Answer) :=
  match name with
  | "filter" => some do return ⟨.map (← ctx.siftFields f fields).1, none⟩
  | "drain" => some do
    let (taken, kept) ← ctx.siftFields f fields
    return ⟨.map taken, some (.map kept)⟩
  | "retain" => some do
    let (kept, dropped) ← ctx.siftFields f fields
    return ⟨.map dropped, some (.map kept)⟩
  | _ => none

/-- The functions of arrays to which a function may also be given by its name. -/
def takeNames : List String :=
  ["map", "filter", "index_of", "some", "all", "reduce", "reduce_rev", "sort", "drain", "retain"]

/-- A function that scripts find ready. -/
def ready (name : String) (receiver : Value) (arguments : List Value) : Run Answer := do
  let withFunction := match receiver, arguments with
    | .array xs, f@(.function ..) :: more => ctx.onArray? name xs f more
    | .array xs, .string f :: more =>
      if takeNames.contains name then
        if Token.isName f then ctx.onArray? name xs (.function f []) more else some fault
      else none
    | .map fields, [f@(.function ..)] => ctx.onMap? name fields f
    | f@(.function ..), arguments =>
      if name == "call" then some do return ⟨← ctx.apply f arguments, none⟩ else none
    | _, _ => none
  match withFunction, receiver, name with
  | some run, _, _ => run
  | none, .function g curried, "curry" => return ⟨.function g (curried ++ arguments), none⟩
  | none, .function g _, "name" => return ⟨.string g, none⟩
  | none, _, "is_shared" => return ⟨.bool false, none⟩
  | none, v, "exit" => if arguments.isEmpty then throw (.quit v) else fault
  | none, _, _ => ofOption (Library.call? name receiver arguments)

/-- Asks a value for something: a function in a field of a map, a function of the script with
the value as its receiver, or a function that scripts find ready. -/
def ask (target : Value) (name : String) (arguments : List Value) : Run Answer := do
  let field := match target with
    | .map fields => match fields.lookup name with
      | some f@(.function ..) => some f
      | _ => none
    | _ => none
  match field, ctx.function? name arguments.length with
  | some f, _ =>
    let (result, changed) ← ctx.applyOn f arguments (some target)
    return ⟨result, changed⟩
  | none, some f =>
    let (result, changed) ← ctx.invoke f arguments (some target)
    return ⟨result, changed⟩
  | none, none => ctx.ready name target arguments

end Context

end Precompiler.Script
