import Precompiler.Script.Library.Basic

/-! Functions of numbers. -/
namespace Precompiler.Script.Library

/-- The larger or the smaller one of two floats. -/
def largerOrSmaller (name : String) (x y : Float) : Option Answer :=
  match name with
  | "max" => gives (.float (if x < y then y else x))
  | "min" => gives (.float (if y < x then y else x))
  | _ => none

def onInt (name : String) (n : Int) : List Value → Option Answer
  | [] =>
    match name with
    | "abs" => (Value.int? n.natAbs).bind gives
    | "sign" => gives (.int n.sign)
    | "is_odd" => gives (.bool (n % 2 != 0))
    | "is_even" => gives (.bool (n % 2 == 0))
    | "is_zero" => gives (.bool (n == 0))
    | "to_float" => gives (.float (Value.toFloat n))
    | "to_hex" => gives (.string (String.ofList (Nat.toDigits 16 (Operator.bits n))))
    | "to_octal" => gives (.string (String.ofList (Nat.toDigits 8 (Operator.bits n))))
    | "to_binary" => gives (.string (String.ofList (Nat.toDigits 2 (Operator.bits n))))
    | _ => none
  | [.int m] =>
    match name with
    | "max" => gives (.int (max n m))
    | "min" => gives (.int (min n m))
    | "range" => gives (.range n m false)
    | _ => none
  | [.float y] => largerOrSmaller name (Value.toFloat n) y
  | [.int m, .int step] =>
    if name == "range" && step != 0 then
      let count := if step > 0 then (m - n + step - 1) / step else (n - m - step - 1) / (-step)
      gives (.array ((List.range (min count.toNat 1000000)).map fun (i : Nat) => .int (n + i * step)))
    else none
  | _ => none

/-- A float as a whole number. -/
def truncated? (x : Float) : Option Value :=
  if x.abs < 9.3e18 then Value.int? (if x < 0 then -(Int.ofNat (-x).toUInt64.toNat) else Int.ofNat x.toUInt64.toNat)
  else none

def onFloat (name : String) (x : Float) : List Value → Option Answer
  | [] =>
    match name with
    | "abs" => gives (.float x.abs)
    | "sign" => gives (.int (if x > 0 then 1 else if x < 0 then -1 else 0))
    | "is_zero" => gives (.bool (x == 0))
    | "is_nan" => gives (.bool x.isNaN)
    | "is_finite" => gives (.bool x.isFinite)
    | "is_infinite" => gives (.bool x.isInf)
    | "floor" => gives (.float x.floor)
    | "ceiling" => gives (.float x.ceil)
    | "round" => gives (.float x.round)
    | "int" => gives (.float (if x < 0 then x.ceil else x.floor))
    | "fraction" => gives (.float (x - (if x < 0 then x.ceil else x.floor)))
    | "sqrt" => gives (.float x.sqrt)
    | "to_float" => gives (.float x)
    | "to_int" => (truncated? x).bind gives
    | _ => none
  | [.float y] => largerOrSmaller name x y
  | [.int n] => largerOrSmaller name x (Value.toFloat n)
  | _ => none

end Precompiler.Script.Library
