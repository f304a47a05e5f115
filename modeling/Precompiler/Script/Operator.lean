import Precompiler.Script.Value

/-! The operators of hook scripts.

An operator that two values do not admit gives nothing, which ends the script. Arithmetic
on whole numbers fails when it leaves their range; with a float on either side it is
arithmetic on floats. Text may be joined with anything. Values of different kinds are
neither equal nor ordered, which is not an error. -/
namespace Precompiler.Script

/-- The operators between two values that are both evaluated. -/
inductive Operator where
  | plus
  | minus
  | times
  | divide
  | modulo
  | power
  | shiftLeft
  | shiftRight
  | bitAnd
  | bitOr
  | bitXor
  | equal
  | unequal
  | less
  | lessOrEqual
  | greater
  | greaterOrEqual
  | exclusiveRange
  | inclusiveRange
  deriving DecidableEq

namespace Operator

/-- Whether an operator can change a variable in place. -/
def changesInPlace : Operator → Bool
  | plus | minus | times | divide | modulo | power => true
  | shiftLeft | shiftRight | bitAnd | bitOr | bitXor => true
  | _ => false

open Value (int? toFloat)

/-! ### Bits -/

/-- A whole number as 64 bits. -/
def bits (n : Int) : Nat := (n % Nat.pow 2 64).toNat

/-- The whole number that 64 bits stand for. -/
def ofBits (n : Nat) : Int :=
  let low : Nat := n % Nat.pow 2 64
  if low < Nat.pow 2 63 then low else (low : Int) - Nat.pow 2 64

/-- Bits moved up; those that leave the number are lost. -/
def shiftUp (a : Int) (amount : Nat) : Int := if amount ≥ 64 then 0 else ofBits (bits a * Nat.pow 2 amount)

/-- Bits moved down; the sign moves in. -/
def shiftDown (a : Int) (amount : Nat) : Int :=
  if amount ≥ 64 then (if a < 0 then -1 else 0) else Int.fdiv a (Nat.pow 2 amount)

/-- A shift by a negative number goes the other way. -/
def shift (a amount : Int) (isUp : Bool) : Int :=
  if isUp == decide (0 ≤ amount) then shiftUp a amount.natAbs else shiftDown a amount.natAbs

/-! ### Numbers -/

/-- The remainder of floats, with the sign of the dividend. -/
def floatModulo (a b : Float) : Float :=
  let q := a / b
  a - b * (if q < 0 then q.ceil else q.floor)

def onInts (op : Operator) (a b : Int) : Option Value :=
  match op with
  | plus => int? (a + b)
  | minus => int? (a - b)
  | times => int? (a * b)
  | divide => if b = 0 then none else int? (Int.tdiv a b)
  | modulo =>
    if b = 0 ∨ (a = Value.minInt ∧ b = -1) then none else int? (Int.tmod a b)
  | power =>
    if b < 0 then none
    else if a.natAbs ≤ 1 then int? (Int.pow a (b.toNat % 2 + if b = 0 then 0 else 2))
    else if b > 64 then none
    else int? (Int.pow a b.toNat)
  | shiftLeft => some (.int (shift a b true))
  | shiftRight => some (.int (shift a b false))
  | bitAnd => some (.int (ofBits (bits a &&& bits b)))
  | bitOr => some (.int (ofBits (bits a ||| bits b)))
  | bitXor => some (.int (ofBits (bits a ^^^ bits b)))
  | exclusiveRange => some (.range a b false)
  | inclusiveRange => some (.range a b true)
  | _ => none

def onFloats (op : Operator) (a b : Float) : Option Value :=
  match op with
  | plus => some (.float (a + b))
  | minus => some (.float (a - b))
  | times => some (.float (a * b))
  | divide => some (.float (a / b))
  | modulo => some (.float (floatModulo a b))
  | power => some (.float (a.pow b))
  | _ => none

/-! ### Text -/

/-- A text may take up at most this many bytes. -/
def maxTextBytes : Nat := 10 * 1024 * 1024

/-- A text that is not too long. -/
def text? (s : String) : Option Value :=
  if s.utf8ByteSize ≤ maxTextBytes then some (.string s) else none

/-- Maps laid over one another. -/
def mixed (base top : List (String × Value)) : List (String × Value) :=
  top.foldl (fun fields (name, value) => Value.setField name value fields) base

/-- Sums and differences of values that are not both numbers. -/
def onOthers (op : Operator) (a b : Value) : Option Value :=
  match op, a, b with
  | plus, .char c, .char d => some (.string (String.ofList [c, d]))
  | plus, .array xs, .array ys => some (.array (xs ++ ys))
  | plus, .map xs, .map ys => some (.map (mixed xs ys))
  | plus, .string s, b => text? (s ++ b.text)
  | plus, a, .string t => text? (a.text ++ t)
  | minus, .string s, .string t => if t == "" then some (.string s) else some (.string (s.replace t ""))
  | minus, .string s, .char c => some (.string (String.ofList (s.toList.filter (· != c))))
  | bitAnd, .bool x, .bool y => some (.bool (x && y))
  | bitOr, .bool x, .bool y => some (.bool (x || y))
  | bitXor, .bool x, .bool y => some (.bool (x != y))
  | _, _, _ => none

/-! ### Comparisons -/

/-- Whether an ordering answers a comparison with yes. -/
def accepts (op : Operator) (order : Ordering) : Bool :=
  match op with
  | less => order == .lt
  | lessOrEqual => order != .gt
  | greater => order == .gt
  | greaterOrEqual => order != .lt
  | _ => false

/-- Whether values of a kind have no order of their own. -/
def isUnordered (a : Value) : Bool :=
  match a.kind with
  | .array | .map | .function | .range | .inclusiveRange => true
  | _ => false

/-- The answer to a comparison. -/
def compared (op : Operator) (a b : Value) : Option Value :=
  match op with
  | equal => some (.bool (a.isEqual b))
  | unequal => some (.bool (!a.isEqual b))
  | _ =>
    match Value.order? a b with
    | some order => some (.bool (op.accepts order))
    | none => if a.kind = b.kind && isUnordered a then none else some (.bool false)

def isComparison : Operator → Bool
  | equal | unequal | less | lessOrEqual | greater | greaterOrEqual => true
  | _ => false

/-- The value of an operator on two values. -/
def result? (op : Operator) (a b : Value) : Option Value :=
  if op.isComparison then op.compared a b
  else
    match a, b with
    | .int a, .int b => op.onInts a b
    | .float a, .float b => op.onFloats a b
    | .int a, .float b => op.onFloats (toFloat a) b
    | .float a, .int b => op.onFloats a (toFloat b)
    | a, b => op.onOthers a b

/-- The value that an assignment with an operator leaves behind. An array takes up what is
added to it, as one more element unless it is an array itself. -/
def update? (op : Operator) (a b : Value) : Option Value :=
  match op, a, b with
  | plus, .array xs, .array ys => some (.array (xs ++ ys))
  | plus, .array xs, y => some (.array (xs ++ [y]))
  | _, _, _ => op.result? a b

end Operator

end Precompiler.Script
