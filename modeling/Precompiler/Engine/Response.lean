import Precompiler.Json.Reader

/-! What an engine process answers.

An answer says whether the request was carried out, and then gives a result, or else an
error message. It is written as an object, or as an array of the three parts. Only the
known fields of an object are looked at: what stands under other names must be well-formed
and is otherwise skipped, so neither its depth nor the size of its numbers matters. -/
namespace Precompiler

structure Response where
  ok : Bool
  result : Option Json
  error : Option String

namespace Response

open Json (Outline)

def switch? : Outline → Option Bool
  | .word text =>
    if text == "true".toList then some true
    else if text == "false".toList then some false
    else none
  | _ => none

def text? : Outline → Option String
  | .string pieces => Json.string? pieces
  | _ => none

/-- A result, which stands one level deep in its answer. -/
def result? : Outline → Option Json := Json.ofOutline? (Json.maxDepth - 1)

/-- A part that may be missing, or `null`, which means the same. -/
def perhaps {α : Type} (read : Outline → Option α) : Option Outline → Option (Option α)
  | none => some none
  | some (.word ['n', 'u', 'l', 'l']) => some none
  | some outline => (read outline).map some

/-- The answer out of its three parts; the first must be there. -/
def ofParts? (ok result error : Option Outline) : Option Response := do
  return ⟨← switch? (← ok), ← perhaps result? result, ← perhaps text? error⟩

/-- The only field of a name; none if there are several. -/
def single? (name : String) (fields : List (String × Outline)) : Option (Option Outline) :=
  match fields.filter (·.1 == name) with
  | [] => some none
  | [(_, outline)] => some (some outline)
  | _ => none

/-- The answer that an outline describes. -/
def ofOutline? : Outline → Option Response
  | .object fields => do
    let fields ← fields.mapM fun (name, outline) => (Json.string? name).map (·, outline)
    ofParts? (← single? "ok" fields) (← single? "result" fields) (← single? "error" fields)
  | .array elements =>
    if elements.length ≤ 3 then ofParts? elements[0]? elements[1]? elements[2]? else none
  | _ => none

/-- The answer in the output of a process. -/
def ofBytes? (bytes : ByteArray) : Option Response := (Json.outline? bytes).bind ofOutline?

end Response

end Precompiler
