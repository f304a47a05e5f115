import Precompiler.Script.Operator

/-! What a function that scripts find ready gives, and parts of lists as arguments mean them. -/
namespace Precompiler.Script

/-- What a function gives, and what it makes of its receiver if that changes. -/
structure Answer where
  result : Value
  changed : Option Value

namespace Library

/-- A result that leaves the receiver alone. -/
def gives (v : Value) : Option Answer := some ⟨v, none⟩

def becomes (v : Value) : Option Answer := some ⟨.unit, some v⟩

/-- The receiver changed, with a result. -/
def givesAndBecomes (result changed : Value) : Option Answer := some ⟨result, some changed⟩

open Value (place? startPlace)

/-- An element, or the unit where there is none. -/
def elementOr (v : Option Value) : Value := v.getD .unit

/-! ### Parts of lists -/

/-- The start and the length of a part, given by an index and a count. -/
def partOf (length : Nat) (start count : Int) : Nat × Nat :=
  let s := startPlace length start
  (s, min count.toNat (length - s))

/-- The part that arguments mean: from an index to the end, a count from an index, or a
range. -/
def part? (length : Nat) : List Value → Option (Nat × Nat)
  | [.int start] => let s := startPlace length start; some (s, length - s)
  | [.int start, .int count] => some (partOf length start count)
  | [.range low high isInclusive] => some (Value.span length low high isInclusive)
  | _ => none

def slice {α : Type} (xs : List α) (part : Nat × Nat) : List α := (xs.drop part.1).take part.2

def without {α : Type} (xs : List α) (part : Nat × Nat) : List α :=
  xs.take part.1 ++ xs.drop (part.1 + part.2)

/-- The place of the first element of a kind, from a place on. -/
def findFrom {α : Type} (p : α → Bool) (xs : List α) (start : Nat) : Int :=
  match (xs.drop start).findIdx? p with
  | some i => ((start + i : Nat) : Int)
  | none => -1

end Library

end Precompiler.Script
