import Precompiler.Engine.Hook
import Precompiler.Script.Evaluate
import Precompiler.Script.Reader.Statement

/-! Scripts on syntax trees.

A script sees the tree as the variable `ast`, and the value of the script stands for the new
tree. -/
namespace Precompiler.Script

namespace Value

/-! ### Trees as values -/

mutual

/-- The value of a tree. A whole number beyond 64 bits with sign becomes a float. -/
def ofJson : Json → Value
  | .null => unit
  | .bool b => bool b
  | .int n => (int? n).getD (float (toFloat n))
  | .float x => float x
  | .str s => string s
  | .arr elements => array (ofElements elements)
  | .obj fields => map (ofFields fields)

def ofElements : List Json → List Value
  | [] => []
  | e :: rest => ofJson e :: ofElements rest

def ofFields : List (String × Json) → List (String × Value)
  | [] => []
  | (name, value) :: rest => (name, ofJson value) :: ofFields rest

end

mutual

/-- The tree that a value stands for; functions and ranges stand for none. -/
def toJson? : Value → Option Json
  | unit => some .null
  | bool b => some (.bool b)
  | int n => some (.int n)
  | float x => some (if x.isNaN || x.isInf then .null else .float x)
  | char c => some (.str (String.singleton c))
  | string s => some (.str s)
  | array elements => (toElements? elements).map .arr
  | map fields => (toFields? fields).map .obj
  | function .. | range .. | cell _ => none

def toElements? : List Value → Option (List Json)
  | [] => some []
  | v :: rest => do return (← v.toJson?) :: (← toElements? rest)

def toFields? : List (String × Value) → Option (List (String × Json))
  | [] => some []
  | (name, v) :: rest => do return (name, ← v.toJson?) :: (← toFields? rest)

end

end Value

/-- What a script gives back by its value. -/
def answerOf : Option Value → Except String (Option Ast)
  | none => .error "script failed"
  | some .unit => .ok none
  | some v =>
    match v.toJson? with
    | some tree => .ok (some tree)
    | none => .error "the value of the script is no AST"

def onTree (script : Script) : HookScript := fun ast =>
  let (printed, value) := script.run [("ast", .ofJson ast)]
  (printed.map (· ++ "\n"), answerOf value)

end Precompiler.Script
