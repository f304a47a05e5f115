import Precompiler.Script.Library.Collection
import Precompiler.Script.Library.Number
import Precompiler.Script.Library.Text

/-! The functions that hook scripts find ready.

Each takes a receiver and further arguments. It gives a result and, if it changes the
receiver, what the receiver becomes; where the arguments do not fit, it gives nothing,
which ends the script. -/
namespace Precompiler.Script

namespace Library

/-- A function asked of a receiver. -/
def call? (name : String) (receiver : Value) (arguments : List Value) : Option Answer :=
  match name, arguments with
  | "to_string", [] => gives (.string receiver.text)
  | "to_debug", [] => gives (.string receiver.inner)
  | "type_of", [] => gives (.string receiver.kindName)
  | _, _ =>
    match receiver with
    | .int n => onInt name n arguments
    | .float x => onFloat name x arguments
    | .char c => onChar name c arguments
    | .string s => onString name s arguments
    | .array xs => onArray name xs arguments
    | .map fields => onMap name fields arguments
    | .range low high isInclusive => onRange name low high isInclusive arguments
    | _ => none

/-- The functions without arguments that can be read like a property. -/
def getters : Kind → List String
  | .array => ["len", "is_empty"]
  | .string => ["len", "is_empty", "bytes", "chars"]
  | .int => ["is_odd", "is_even", "is_zero"]
  | .float => ["floor", "ceiling", "round", "int", "fraction", "is_nan", "is_finite", "is_infinite", "is_zero"]
  | .range | .inclusiveRange => ["start", "end", "is_inclusive", "is_exclusive", "is_empty"]
  | _ => []

def contains? (whole v : Value) : Option Bool :=
  match whole, v with
  | .array xs, v => some (xs.any (·.isEqual v))
  | .map fields, .string key => some (fields.lookup key).isSome
  | .string s, v => (charsOf? v).map fun part => decide (0 ≤ occurrence part 0 s.toList 0)
  | .range low high isInclusive, .int n =>
    some (low ≤ n && (if isInclusive then n ≤ high else n < high))
  | _, _ => none

end Library

end Precompiler.Script
