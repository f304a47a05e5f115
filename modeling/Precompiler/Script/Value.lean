import Precompiler.Number.Layout
import Precompiler.Text.Literal

/-! The values of hook scripts.

Whole numbers have 64 bits, and arithmetic that leaves them fails. Maps keep their fields
in the order of the names. A variable that a function has captured holds a cell in place of
its value, so that both see what becomes of it. -/
namespace Precompiler.Script

inductive Value where
  | unit
  | bool (b : Bool)
  | int (n : Int)
  | float (x : Float)
  | char (c : Char)
  | string (s : String)
  | array (elements : List Value)
  | map (fields : List (String × Value))
  /-- A function by its name, with the arguments that it has already. -/
  | function (name : String) (curried : List Value)
  | range (low high : Int) (isInclusive : Bool)
  /-- What a captured variable holds. -/
  | cell (n : Nat)
  deriving Inhabited

/-- The kinds of values. -/
inductive Kind where
  | unit
  | bool
  | int
  | float
  | char
  | string
  | array
  | map
  | function
  | range
  | inclusiveRange
  deriving DecidableEq

namespace Value

def kind : Value → Kind
  | unit | cell _ => .unit
  | bool _ => .bool
  | int _ => .int
  | float _ => .float
  | char _ => .char
  | string _ => .string
  | array _ => .array
  | map _ => .map
  | function .. => .function
  | range _ _ isInclusive => if isInclusive then .inclusiveRange else .range

def kindName (value : Value) : String :=
  match value.kind with
  | .unit => "()"
  | .bool => "bool"
  | .int => "i64"
  | .float => "f64"
  | .char => "char"
  | .string => "string"
  | .array => "array"
  | .map => "map"
  | .function => "Fn"
  | .range => "range"
  | .inclusiveRange => "range="

def isUnit : Value → Bool
  | unit => true
  | _ => false

/-! ### Whole numbers -/

def minInt : Int := -(Nat.pow 2 63)

def maxInt : Int := Nat.pow 2 63 - 1

/-- A whole number, if it has no more than 64 bits. -/
def int? (n : Int) : Option Value := if minInt ≤ n ∧ n ≤ maxInt then some (int n) else none

/-! ### Maps -/

/-- Fields with one of them set, in the order of their names. -/
def setField (name : String) (value : Value) : List (String × Value) → List (String × Value)
  | [] => [(name, value)]
  | (n, v) :: rest =>
    if name = n then (name, value) :: rest
    else if name < n then (name, value) :: (n, v) :: rest
    else (n, v) :: setField name value rest

/-! ### Text -/

/-- Floats without exponent. -/
def positionalFloats : Number.Layout where
  positional := fun _ => true
  markWhole := true
  zero := "0.0"
  negativeZero := "0.0"
  nan := "NaN"
  infinity := "inf"

/-- Very large and very small floats have an exponent, all others have a point. -/
def floatText (x : Float) : String :=
  let isExtreme := x.abs > 1e13 || (x != 0 && x.abs < 1e-13)
  { positionalFloats with positional := fun _ => !isExtreme }.write x

/-- A character between single quotes. -/
def quotedChar (c : Char) : String :=
  "'" ++ String.ofList (Text.quotedChar ['\''] c) ++ "'"

mutual

/-- How a value is shown inside another one. -/
def inner : Value → String
  | string s => Text.quoted s
  | char c => quotedChar c
  | unit => "()"
  | array elements => "[" ++ innerElements elements ++ "]"
  | map fields => "#\x7b" ++ innerFields fields ++ "\x7d"
  | bool b => if b then "true" else "false"
  | int n => toString n
  | float x => floatText x
  | function name _ => "Fn(" ++ name ++ ")"
  | range low high isInclusive =>
    toString low ++ (if isInclusive then "..=" else "..") ++ toString high
  | cell _ => ""

def innerElements : List Value → String
  | [] => ""
  | [v] => v.inner
  | v :: rest => v.inner ++ ", " ++ innerElements rest

def innerFields : List (String × Value) → String
  | [] => ""
  | [(name, v)] => Text.quoted name ++ ": " ++ v.inner
  | (name, v) :: rest => Text.quoted name ++ ": " ++ v.inner ++ ", " ++ innerFields rest

end

/-- A value as text. -/
def text : Value → String
  | string s => s
  | char c => String.singleton c
  | unit => ""
  | other => other.inner

/-! ### Comparing -/

def toFloat (n : Int) : Float := Float.ofInt n

/-- How two values of ordered kinds compare; numbers of both kinds do, and so do characters
and strings. Floats that are no numbers compare with nothing. -/
def order? : Value → Value → Option Ordering
  | int a, int b => some (compare a b)
  | float a, float b => ofFloats a b
  | int a, float b => ofFloats (toFloat a) b
  | float a, int b => ofFloats a (toFloat b)
  | char a, char b => some (compare a b)
  | string a, string b => some (compare a b)
  | char a, string b => some (compare (String.singleton a) b)
  | string a, char b => some (compare a (String.singleton b))
  | bool a, bool b => some (compare a.toNat b.toNat)
  | _, _ => none
where
  ofFloats (a b : Float) : Option Ordering :=
    if a < b then some .lt else if a > b then some .gt else if a == b then some .eq else none

mutual

def isEqual : Value → Value → Bool
  | unit, unit => true
  | array a, array b => areEqual a b
  | map a, map b => haveEqualFields a b
  | range l h i, range l' h' i' => l == l' && h == h' && i == i'
  | function f _, function g _ => f == g
  | a, b => order? a b == some .eq

def areEqual : List Value → List Value → Bool
  | [], [] => true
  | a :: rest, b :: rest' => a.isEqual b && areEqual rest rest'
  | _, _ => false

def haveEqualFields : List (String × Value) → List (String × Value) → Bool
  | [], [] => true
  | (n, a) :: rest, (m, b) :: rest' => n == m && a.isEqual b && haveEqualFields rest rest'
  | _, _ => false

end

/-! ### Places in lists -/

/-- The place that an index means in a list of a length; a negative one counts from the
end. -/
def place? (length : Nat) (index : Int) : Option Nat :=
  let i := if index < 0 then index + length else index
  if 0 ≤ i ∧ i < length then some i.toNat else none

/-- The place from which a part of a list begins, within the list. -/
def startPlace (length : Nat) (index : Int) : Nat :=
  if index < 0 then (index + length).toNat else min index.toNat length

/-- The start and the length of a range of places, within a list of a length. -/
def span (length : Nat) (low high : Int) (isInclusive : Bool) : Nat × Nat :=
  let start := startPlace length (max low 0)
  let stop := min length ((if isInclusive then high + 1 else high).toNat)
  (start, stop - start)

end Value

end Precompiler.Script
