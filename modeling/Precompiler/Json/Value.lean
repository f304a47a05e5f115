import Precompiler.Number.Layout

/-! JSON values and their compact text.

The fields of an object are kept in the order of their names and each name once, so two
objects with the same fields are the same value and have the same text. The compact text
has no blanks; a string escapes what must be escaped and nothing else. -/
namespace Precompiler

/-- A JSON value. Whole numbers are exact. -/
inductive Json where
  | null
  | bool (b : Bool)
  | int (n : Int)
  | float (x : Float)
  | str (s : String)
  | arr (elements : List Json)
  | obj (fields : List (String × Json))
  deriving Inhabited

namespace Json

/-! ### Objects -/

/-- Fields with one of them set, in the order of their names. -/
def setField (name : String) (value : Json) : List (String × Json) → List (String × Json)
  | [] => [(name, value)]
  | (n, v) :: rest =>
    if name = n then (name, value) :: rest
    else if name < n then (name, value) :: (n, v) :: rest
    else (n, v) :: setField name value rest

/-- The object with some fields; of fields with one name the last counts. -/
def ofFields (fields : List (String × Json)) : Json :=
  .obj (fields.foldl (fun done (name, value) => setField name value done) [])

def field? (name : String) : Json → Option Json
  | obj fields => fields.lookup name
  | _ => none

/-! ### Text -/

def hexDigit (n : Nat) : Char :=
  if n < 10 then Char.ofNat (48 + n) else Char.ofNat (87 + n)

/-- How a character stands in a string. -/
def escape (c : Char) : List Char :=
  if c = '"' then ['\\', '"']
  else if c = '\\' then ['\\', '\\']
  else if c.toNat < 32 then
    match c.toNat with
    | 8 => ['\\', 'b']
    | 9 => ['\\', 't']
    | 10 => ['\\', 'n']
    | 12 => ['\\', 'f']
    | 13 => ['\\', 'r']
    | n => ['\\', 'u', '0', '0', hexDigit (n / 16), hexDigit (n % 16)]
  else [c]

def quote (s : String) : String :=
  "\"" ++ String.ofList (s.toList.flatMap escape) ++ "\""

/-- Floats are written positionally from 10⁻⁵ to 10¹⁶ and always look like floats; there
is no number for the others. -/
def floats : Number.Layout where
  positional := fun before => -5 < before && before ≤ 16
  markWhole := true
  zero := "0.0"
  negativeZero := "-0.0"
  nan := "null"
  infinity := "null"

mutual

/-- A text, followed by the compact text of a value. -/
def writeOn (text : String) : Json → String
  | null => text ++ "null"
  | bool true => text ++ "true"
  | bool false => text ++ "false"
  | int n => text ++ toString n
  | float x => text ++ (if x.isInf || x.isNaN then "null" else floats.write x)
  | str s => text ++ quote s
  | arr [] => text ++ "[]"
  | arr (e :: rest) => writeElements (writeOn (text ++ "[") e) rest ++ "]"
  | obj [] => text ++ "\x7b\x7d"
  | obj ((name, value) :: rest) =>
    writeFields (writeOn (text ++ "\x7b" ++ quote name ++ ":") value) rest ++ "\x7d"

/-- A text, followed by further elements. -/
def writeElements (text : String) : List Json → String
  | [] => text
  | e :: rest => writeElements (writeOn (text ++ ",") e) rest

/-- A text, followed by further fields. -/
def writeFields (text : String) : List (String × Json) → String
  | [] => text
  | (name, value) :: rest =>
    writeFields (writeOn (text ++ "," ++ quote name ++ ":") value) rest

end

def compact (value : Json) : String := writeOn "" value

end Json

end Precompiler
