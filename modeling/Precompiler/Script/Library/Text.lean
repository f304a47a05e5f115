import Precompiler.Script.Library.Basic
import Precompiler.Text.Blank
import Precompiler.Text.Case

/-! Functions of strings and characters. -/
namespace Precompiler.Script.Library

open Value (place? startPlace)

def charsOf? : Value → Option (List Char)
  | .string s => some s.toList
  | .char c => some [c]
  | _ => none

/-- The place from which a text occurs in another one, from a place on. -/
def occurrence (part : List Char) : Nat → List Char → Nat → Int
  | skipped, [], here => if part.isEmpty && here ≤ skipped then skipped else -1
  | skipped, c :: rest, here =>
    if here ≤ skipped && part.isPrefixOf (c :: rest) then skipped
    else occurrence part (skipped + 1) rest here

/-- A text cut at the occurrences of a part, into at most so many pieces. -/
def cutAt (part : List Char) (limit : Nat) (text : List Char) : List (List Char) :=
  if part.isEmpty then
    [] :: (text.map fun c => [c]) ++ [[]]
  else go limit text.length [] text
where
  go (limit : Nat) : Nat → List Char → List Char → List (List Char)
    | _, done, [] => [done.reverse]
    | 0, done, text => [done.reverse ++ text]
    | n + 1, done, c :: rest =>
      if limit ≤ 1 then [done.reverse ++ c :: rest]
      else if part.isPrefixOf (c :: rest) then
        done.reverse :: go (limit - 1) n [] ((c :: rest).drop part.length)
      else go limit n (c :: done) rest

def replaced (part substitute text : List Char) : List Char :=
  substitute.intercalate (cutAt part (text.length + 2) text)

def ofChars (chars : List Char) : Value := .string (String.ofList chars)

/-- Words between blanks. -/
def words (text : List Char) : List (List Char) := (text.splitOnP Text.isBlank).filter (· != [])

/-- A text as a whole number in a base. -/
def parseInt? (base : Nat) (text : List Char) : Option Value :=
  let (isNegative, digits) := match Text.trimChars text with
    | '-' :: rest => (true, rest)
    | '+' :: rest => (false, rest)
    | rest => (false, rest)
  let value (c : Char) : Nat :=
    if c.isDigit then c.toNat - 48
    else if 'a' ≤ c && c ≤ 'z' then c.toNat - 87
    else if 'A' ≤ c && c ≤ 'Z' then c.toNat - 55 else 99
  if digits.isEmpty || digits.any (value · ≥ base) then none
  else
    let n : Nat := digits.foldl (fun n c => n * base + value c) 0
    Value.int? (if isNegative then -(n : Int) else n)

/-- A text as a float. -/
def parseFloat? (text : List Char) : Option Value :=
  let (isNegative, digits) := match Text.trimChars text with
    | '-' :: rest => (true, rest)
    | '+' :: rest => (false, rest)
    | rest => (false, rest)
  let (whole, rest) := digits.span Char.isDigit
  let (fraction, rest) := match rest with
    | '.' :: rest => rest.span Char.isDigit
    | rest => ([], rest)
  let (exponent, rest) := match rest with
    | e :: '-' :: rest =>
      if e == 'e' || e == 'E' then ('-' :: rest.takeWhile Char.isDigit, rest.dropWhile Char.isDigit)
      else ([], e :: '-' :: rest)
    | e :: rest =>
      if e == 'e' || e == 'E' then (rest.takeWhile Char.isDigit, rest.dropWhile Char.isDigit)
      else ([], e :: rest)
    | [] => ([], [])
  if (whole.isEmpty && fraction.isEmpty) || !rest.isEmpty then none
  else
    let number (digits : List Char) : Nat := digits.foldl (fun n c => n * 10 + (c.toNat - 48)) 0
    let e : Int := match exponent with
      | '-' :: digits => -(number digits : Int)
      | digits => number digits
    let e := e - fraction.length
    let x := Float.ofScientific (number (whole ++ fraction)) (decide (e < 0)) e.natAbs
    some (.float (if isNegative then -x else x))

def onString (name : String) (s : String) (arguments : List Value) : Option Answer :=
  let chars := s.toList
  let length := chars.length
  match name, arguments with
  | "len", [] => gives (.int length)
  | "bytes", [] => gives (.int s.utf8ByteSize)
  | "is_empty", [] => gives (.bool (s == ""))
  | "to_upper", [] => gives (.string (Text.allCapitals s))
  | "to_lower", [] => gives (.string (Text.allSmall s))
  | "make_upper", [] => becomes (.string (Text.allCapitals s))
  | "make_lower", [] => becomes (.string (Text.allSmall s))
  | "trim", [] => becomes (ofChars (Text.trimChars chars))
  | "clear", [] => becomes (.string "")
  | "chars", [] | "to_chars", [] => gives (.array (chars.map .char))
  | "contains", [part] => do gives (.bool (0 ≤ occurrence (← charsOf? part) 0 chars 0))
  | "starts_with", [part] => do gives (.bool ((← charsOf? part).isPrefixOf chars))
  | "ends_with", [part] => do gives (.bool ((← charsOf? part).isSuffixOf chars))
  | "index_of", [part] => do gives (.int (occurrence (← charsOf? part) 0 chars 0))
  | "index_of", [part, .int start] => do
    gives (.int (occurrence (← charsOf? part) 0 chars (startPlace length start)))
  | "sub_string", arguments => do gives (ofChars (slice chars (← part? length arguments)))
  | "crop", arguments => do becomes (ofChars (slice chars (← part? length arguments)))
  | "split", [] => gives (.array ((words chars).map ofChars))
  | "split", [.int i] =>
    let here := startPlace length i
    gives (.array [ofChars (chars.take here), ofChars (chars.drop here)])
  | "split", [part] => do
    gives (.array ((cutAt (← charsOf? part) (length + 2) chars).map ofChars))
  | "split", [part, .int limit] => do
    gives (.array ((cutAt (← charsOf? part) (max limit 1).toNat chars).map ofChars))
  | "split_rev", [part] => do
    gives (.array ((cutAt (← charsOf? part) (length + 2) chars).map ofChars).reverse)
  | "replace", [part, substitute] => do
    becomes (← Operator.text? (String.ofList (replaced (← charsOf? part) (← charsOf? substitute) chars)))
  | "remove", [part] => do becomes (ofChars (replaced (← charsOf? part) [] chars))
  | "append", [more] => do becomes (← Operator.text? (s ++ more.text))
  | "pop", [] =>
    match chars.getLast? with
    | some c => givesAndBecomes (.char c) (ofChars chars.dropLast)
    | none => gives .unit
  | "pop", [.int count] =>
    let keep := length - min length count.toNat
    givesAndBecomes (ofChars (chars.drop keep)) (ofChars (chars.take keep))
  | "truncate", [.int count] => becomes (ofChars (chars.take count.toNat))
  | "pad", [.int count, filling] => do
    let filling ← charsOf? filling
    if filling.isEmpty || count.toNat > Operator.maxTextBytes then none
    else
      let missing := count.toNat - length
      becomes (ofChars (chars ++ (List.replicate missing filling).flatten.take missing))
  | "get", [.int i] => gives (elementOr (((place? length i).bind (chars[·]?)).map .char))
  | "set", [.int i, .char c] =>
    match place? length i with
    | some p => becomes (ofChars (chars.set p c))
    | none => gives .unit
  | "parse_int", [] => do gives (← parseInt? 10 chars)
  | "parse_int", [.int base] => do
    if 2 ≤ base && base ≤ 36 then gives (← parseInt? base.toNat chars) else none
  | "parse_float", [] => do gives (← parseFloat? chars)
  | "max", [.string t] => gives (.string (if s < t then t else s))
  | "min", [.string t] => gives (.string (if t < s then t else s))
  | _, _ => none

def onChar (name : String) (c : Char) : List Value → Option Answer
  | [] =>
    match name with
    | "to_upper" => gives (match Text.upperChar c with
        | [d] => .char d
        | _ => .char c)
    | "to_lower" => gives (match Text.smallChar c with
        | [d] => .char d
        | _ => .char c)
    | "to_int" => gives (.int c.toNat)
    | _ => none
  | _ => none

end Precompiler.Script.Library
