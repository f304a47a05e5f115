import Precompiler.Script.Library.Basic

/-! Functions of arrays, maps and ranges. -/
namespace Precompiler.Script.Library

open Value (place? startPlace)

/-! ### Arrays -/

/-- Elements that all have the kind of the first one, and are ordered. -/
def areSortable : List Value → Bool
  | [] | [_] => true
  | v :: rest =>
    rest.all (·.kind = v.kind) && match v.kind with
      | .array | .map | .function | .range | .inclusiveRange => false
      | _ => true

def sorted (elements : List Value) : List Value :=
  elements.mergeSort fun a b => Value.order? a b != some .gt

/-- The elements without those that equal the one before them. -/
def withoutRepeats : List Value → List Value
  | [] => []
  | [v] => [v]
  | a :: b :: rest => if a.isEqual b then withoutRepeats (a :: rest) else a :: withoutRepeats (b :: rest)
termination_by xs => xs.length

def onArray (name : String) (xs : List Value) (arguments : List Value) : Option Answer :=
  let length := xs.length
  match name, arguments with
  | "len", [] => gives (.int length)
  | "is_empty", [] => gives (.bool xs.isEmpty)
  | "push", [v] => becomes (.array (xs ++ [v]))
  | "append", [.array ys] => becomes (.array (xs ++ ys))
  | "append", [v] => becomes (.array (xs ++ [v]))
  | "insert", [.int i, v] =>
    let p := startPlace length i
    becomes (.array (xs.take p ++ v :: xs.drop p))
  | "pop", [] => if xs.isEmpty then gives .unit else givesAndBecomes (elementOr xs.getLast?) (.array xs.dropLast)
  | "shift", [] => if xs.isEmpty then gives .unit else givesAndBecomes (elementOr xs.head?) (.array (xs.drop 1))
  | "remove", [.int i] =>
    match place? length i with
    | some p => givesAndBecomes (elementOr xs[p]?) (.array (xs.eraseIdx p))
    | none => gives .unit
  | "reverse", [] => becomes (.array xs.reverse)
  | "clear", [] => becomes (.array [])
  | "truncate", [.int count] => becomes (.array (xs.take count.toNat))
  | "chop", [.int count] => becomes (.array (xs.drop (length - count.toNat)))
  | "pad", [.int count, v] =>
    if count > 1000000 then none
    else becomes (.array (xs ++ List.replicate (count.toNat - length) v))
  | "get", [.int i] => gives (elementOr ((place? length i).bind (xs[·]?)))
  | "set", [.int i, v] => (place? length i).bind fun p => becomes (.array (xs.set p v))
  | "contains", [v] => gives (.bool (xs.any (·.isEqual v)))
  | "index_of", [v] => gives (.int (findFrom (·.isEqual v) xs 0))
  | "index_of", [v, .int start] => gives (.int (findFrom (·.isEqual v) xs (startPlace length start)))
  | "extract", arguments => do gives (.array (slice xs (← part? length arguments)))
  | "split", [.int i] =>
    let p := startPlace length i
    givesAndBecomes (.array (xs.drop p)) (.array (xs.take p))
  | "splice", [.int start, .int count, .array ys] =>
    let part := partOf length start count
    becomes (.array (xs.take part.1 ++ ys ++ xs.drop (part.1 + part.2)))
  | "splice", [.range low high isInclusive, .array ys] =>
    let part := Value.span length low high isInclusive
    becomes (.array (xs.take part.1 ++ ys ++ xs.drop (part.1 + part.2)))
  | "drain", arguments => do
    let part ← part? length arguments
    givesAndBecomes (.array (slice xs part)) (.array (without xs part))
  | "retain", arguments => do
    let part ← part? length arguments
    givesAndBecomes (.array (without xs part)) (.array (slice xs part))
  | "dedup", [] => becomes (.array (withoutRepeats xs))
  | "sort", [] => if areSortable xs then becomes (.array (sorted xs)) else none
  | "sort_desc", [] => if areSortable xs then becomes (.array (sorted xs).reverse) else none
  | _, _ => none

/-! ### Maps -/

def onMap (name : String) (fields : List (String × Value)) (arguments : List Value) :
    Option Answer :=
  match name, arguments with
  | "len", [] => gives (.int fields.length)
  | "is_empty", [] => gives (.bool fields.isEmpty)
  | "keys", [] => gives (.array (fields.map fun f => .string f.1))
  | "values", [] => gives (.array (fields.map (·.2)))
  | "contains", [.string key] => gives (.bool (fields.lookup key).isSome)
  | "get", [.string key] => gives (elementOr (fields.lookup key))
  | "set", [.string key, v] => becomes (.map (Value.setField key v fields))
  | "remove", [.string key] =>
    match fields.lookup key with
    | some v => givesAndBecomes v (.map (fields.filter (·.1 != key)))
    | none => gives .unit
  | "clear", [] => becomes (.map [])
  | "mixin", [.map others] => becomes (.map (Operator.mixed fields others))
  | "fill_with", [.map others] => becomes (.map (Operator.mixed others fields))
  | _, _ => none

def onRange (name : String) (low high : Int) (isInclusive : Bool) : List Value → Option Answer
  | [] =>
    match name with
    | "start" => gives (.int low)
    | "end" => gives (.int high)
    | "is_inclusive" => gives (.bool isInclusive)
    | "is_exclusive" => gives (.bool !isInclusive)
    | "is_empty" => gives (.bool (if isInclusive then high < low else high ≤ low))
    | _ => none
  | [.int n] =>
    if name == "contains" then gives (.bool (low ≤ n && (if isInclusive then n ≤ high else n < high)))
    else none
  | _ => none

end Precompiler.Script.Library
