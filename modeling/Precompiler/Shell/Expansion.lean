import Precompiler.Shell.Arithmetic
import Precompiler.Shell.Pattern
import Precompiler.Shell.State

/-! Words expanded.

What a word stands for is found from left to right, and every part of it may change the state.
Then the characters that are not quoted are cut into fields. How a command within a word is run
is a parameter. -/
namespace Precompiler.Shell

/-- Characters of an expanded word, each with whether it is quoted. -/
abbrev Expanded := List (Char × Bool)

/-- The fields of an expanded word; what is not quoted is cut at blanks and line ends.
`isOpen` says that the field under way counts even if it is empty. -/
def fieldsOf (isOpen : Bool) (current : Text) : Expanded → List Text
  | [] => if isOpen || !current.isEmpty then [current.reverse] else []
  | (c, isQuoted) :: rest =>
    if !isQuoted && (isBlank c || c == '\n') then
      (if isOpen || !current.isEmpty then [current.reverse] else []) ++ fieldsOf false [] rest
    else fieldsOf (isOpen || isQuoted) (c :: current) rest

/-- Whether a word is a field even if it is empty. -/
def hasQuotes (word : Word) : Bool :=
  word.any fun
    | .text _ isQuoted => isQuoted
    | .variable _ _ isQuoted => isQuoted
    | .output _ isQuoted => isQuoted
    | .arithmetic _ => false

def isAllParameters : Part → Bool
  | .variable ['@'] .value _ => true
  | _ => false

/-- Whether some part of a word is what a command writes. -/
def hasSubstitution (word : Word) : Bool :=
  word.any fun
    | .output .. => true
    | _ => false

/-- A text without the line ends at its end. -/
def dropLineEnds (text : Text) : Text := (text.reverse.dropWhile (· == '\n')).reverse

def plain (word : Expanded) : Text := word.map (·.1)

/-- A run without what a subshell keeps to itself. -/
def State.fromSubshell (outer inner : State) : State :=
  { outer with input := inner.input, errors := inner.errors, status := inner.status }

/-- A value without the shortest or longest part at its front or end that a pattern matches. -/
def trimmedValue (fromEnd longest : Bool) (pattern : Expanded) (value : Text) : Text :=
  let sizes := List.range (value.length + 1)
  let sizes := if longest then sizes.reverse else sizes
  let isCut (n : Nat) : Bool :=
    matchesPattern pattern (if fromEnd then value.drop (value.length - n) else value.take n)
  match sizes.find? isCut with
  | some n => if fromEnd then value.take (value.length - n) else value.drop n
  | none => value

mutual

def expandPart (run : Command → State → State) (s : State) : Part → Expanded × State
  | .text chars isQuoted => (chars.map (·, isQuoted), s)
  | .variable name use isQuoted => expandUse run s name isQuoted use
  | .output body isQuoted =>
    let inner := run body { s with output := [] }
    ((dropLineEnds inner.output).map (·, isQuoted), s.fromSubshell inner)
  | .arithmetic expression =>
    let (text, s) := expandWord run s expression
    match arithmetic? s.valueOf (plain text) with
    | some value => ((toString value).toList.map (·, true), s)
    | none =>
      ([], (s.objecting 2 ("arithmetic expression: \"" ++ String.ofList (plain text) ++ "\"")).stopping)

/-- What is made of the value of a variable. -/
def expandUse (run : Command → State → State) (s : State) (name : Text) (isQuoted : Bool) :
    Use → Expanded × State
  | .value => ((s.valueOf name).map (·, isQuoted), s)
  | .length => ((natText (s.valueOf name).length).map (·, isQuoted), s)
  | .fallback orEmpty keep word =>
    match s.value? name with
    | some value =>
      if orEmpty && value.isEmpty then
        let (text, s) := expandWord run s word
        (text, if keep then s.setVariable name (plain text) else s)
      else (value.map (·, isQuoted), s)
    | none =>
      let (text, s) := expandWord run s word
      (text, if keep then s.setVariable name (plain text) else s)
  | .substitute orEmpty word =>
    match s.value? name with
    | some value => if orEmpty && value.isEmpty then ([], s) else expandWord run s word
    | none => ([], s)
  | .demand orEmpty word =>
    let isThere := match s.value? name with
      | some value => !(orEmpty && value.isEmpty)
      | none => false
    if isThere then ((s.valueOf name).map (·, isQuoted), s)
    else
      let (text, s) := expandWord run s word
      let text := if text.isEmpty then
        (if orEmpty then "parameter not set or null" else "parameter not set") else String.ofList (plain text)
      ([], (s.objecting 2 (String.ofList name ++ ": " ++ text)).stopping)
  | .trimmed atEnd longest pattern =>
    let (pattern, s) := expandWord run s pattern
    ((trimmedValue atEnd longest pattern (s.valueOf name)).map (·, isQuoted), s)

def expandWord (run : Command → State → State) (s : State) : List Part → Expanded × State
  | [] => ([], s)
  | part :: rest =>
    let (first, s) := expandPart run s part
    let (others, s) := expandWord run s rest
    (first ++ others, s)

end

/-- The fields of a word in which the list of all parameters stands between two parts. -/
def parameterFields (run : Command → State → State) (s : State) (word : Word) : List Text × State :=
  let (before, after) := word.span (!isAllParameters ·)
  let (front, s) := expandWord run s before
  let (back, s) := expandWord run s (after.drop 1)
  let isAlone := front.isEmpty && back.isEmpty
  match s.parameters.reverse with
  | [] => (if isAlone then [] else [plain front ++ plain back], s)
  | [only] => ([plain front ++ only ++ plain back], s)
  | last :: others =>
    match others.reverse with
    | [] => ([], s)
    | first :: middle => ((plain front ++ first) :: middle ++ [last ++ plain back], s)

def expandWords (run : Command → State → State) (s : State) (words : List Word) :
    List Text × State :=
  words.foldl (fun (fields, s) word =>
    if word.any isAllParameters then
      let (more, s) := parameterFields run s word
      (fields ++ more, s)
    else
      let (expanded, s) := expandWord run s word
      (fields ++ fieldsOf (hasQuotes word) [] expanded, s)) ([], s)

end Precompiler.Shell
