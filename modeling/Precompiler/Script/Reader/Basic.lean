import Precompiler.Script.Syntax
import Precompiler.Script.Token

/-! Reading hook scripts.

A reader takes tokens from the front and remembers the variables that have been declared,
so that it can refuse an assignment to a constant, and tell which variables a function has
from outside. -/
namespace Precompiler.Script

/-- What a reader remembers. -/
structure Reader where
  tokens : List Token
  /-- The variables of the present function, latest first, and which are constants. -/
  declared : List (String × Bool)
  /-- The variables that the present function has from outside. -/
  captured : List String
  functions : List Function

abbrev Read := StateT Reader Option

/-- Where in a script something stands. -/
structure Surrounding where
  isInLoop : Bool
  isGlobal : Bool
  isInFunction : Bool

/-- What is read next. -/
inductive Goal where
  | expression
  /-- An expression between brackets. -/
  | bracketed
  | block
  /-- A statement, which may stand without a semicolon if it is enclosed in braces. -/
  | statement

namespace Read

/-! ### Tokens -/

def next : Read Token := do
  match (← get).tokens with
  | [] => failure
  | token :: rest =>
    modify fun r => { r with tokens := rest }
    return token

def peek? : Read (Option Token) := do return (← get).tokens.head?

/-- Whether a symbol comes next; it is taken. -/
def skipSymbol? (s : String) : Read Bool := do
  match ← peek? with
  | some (.symbol t) =>
    if s == t then do
      discard next
      return true
    else return false
  | _ => return false

/-- Whether a keyword comes next; it is taken. -/
def skipKeyword? (s : String) : Read Bool := do
  match ← peek? with
  | some (.keyword t) =>
    if s == t then do
      discard next
      return true
    else return false
  | _ => return false

def symbol (s : String) : Read Unit := do if !(← skipSymbol? s) then failure

def keyword (s : String) : Read Unit := do if !(← skipKeyword? s) then failure

/-- The names of functions that can only be called. -/
def callOnly : List String :=
  ["print", "debug", "type_of", "eval", "Fn", "call", "curry", "is_def_var", "is_def_fn", "is_shared"]

/-- The name of a variable or a parameter. -/
def freshName : Read String := do
  match ← next with
  | .name s => if callOnly.contains s then failure else return s
  | _ => failure

/-- Whether nothing follows that could be a value. -/
def atEnd : Read Bool := do
  match ← peek? with
  | none => return true
  | some (.symbol s) => return s == ";" || s == "\x7d"
  | _ => return false

/-! ### Variables -/

def declare (name : String) (isConstant : Bool) : Read Unit :=
  modify fun r => { r with declared := (name, isConstant) :: r.declared }

/-- Notes the use of a variable. -/
def useName (name : String) : Read Unit :=
  modify fun r =>
    if (r.declared.lookup name).isSome || r.captured.contains name then r
    else { r with captured := r.captured ++ [name] }

/-- Reads something whose variables end with it. -/
def locally {α : Type} (read : Read α) : Read α := do
  let declared := (← get).declared
  let a ← read
  modify fun r => { r with declared }
  return a

/-- Repeats reading until it says that it is done, at most `n` times. -/
def untilDone {α : Type} (read : Read (Option α)) : Nat → Read (List α)
  | 0 => failure
  | n + 1 => do
    match ← read with
    | none => return []
    | some a => return a :: (← untilDone read n)

/-- Things up to a closing symbol, with commas between them; one more may follow the
last. -/
def listed {α : Type} (closing : String) (item : Read α) : Read (List α) := do
  untilDone (do
    if ← skipSymbol? closing then return none
    let a ← item
    if !(← skipSymbol? ",") then
      match ← peek? with
      | some (.symbol s) => if s != closing then failure
      | _ => failure
    return some a) ((← get).tokens.length + 1)

/-- Names that differ. -/
def distinct (names : List String) : Bool := names.eraseDups.length == names.length

section Parts

variable (p : Goal → Surrounding → Read (Expr × Bool)) (here : Surrounding)

def expression : Read Expr := do return (← p .expression here).1

def bracketed : Read Expr := do return (← p .bracketed here).1

def block : Read Expr := do return (← p .block here).1

def loopBody : Read Expr := block p { here with isInLoop := true, isGlobal := false }

end Parts

end Read

end Precompiler.Script
