import Precompiler.Shell.Regex

/-! Regular expressions read.

The basic and the extended ones differ in which marks stand behind a backslash. Groups are
numbered by their opening parentheses, and nest up to a limit. -/
namespace Precompiler.Shell

/-- The ranges of a class of characters with a name. -/
def namedRanges (name : String) : List (Char × Char) :=
  match name with
  | "digit" => [('0', '9')]
  | "lower" => [('a', 'z')]
  | "upper" => [('A', 'Z')]
  | "alpha" => [('a', 'z'), ('A', 'Z')]
  | "alnum" => [('0', '9'), ('a', 'z'), ('A', 'Z')]
  | "xdigit" => [('0', '9'), ('a', 'f'), ('A', 'F')]
  | "space" => [('\t', '\r'), (' ', ' ')]
  | "blank" => [('\t', '\t'), (' ', ' ')]
  | "punct" => [('!', '/'), (':', '@'), ('[', '\x60'), ('\x7b', '~')]
  | "cntrl" => [('\x00', '\x1f'), ('\x7f', '\x7f')]
  | "print" => [(' ', '~')]
  | "graph" => [('!', '~')]
  | _ => []

/-- The ranges of a class up to its closing bracket, and the rest. -/
def classRanges : Nat → List (Char × Char) → Text → Option (List (Char × Char) × Text)
  | 0, _, _ => none
  | n + 1, done, text =>
    match text with
    | ']' :: rest => if done.isEmpty then classRanges n [(']', ']')] rest else some (done, rest)
    | '[' :: ':' :: rest =>
      let (name, rest) := rest.span (· != ':')
      classRanges n (namedRanges (String.ofList name) ++ done) (rest.drop 2)
    | low :: '-' :: high :: rest =>
      if high == ']' then classRanges n ((low, low) :: done) ('-' :: high :: rest)
      else classRanges n ((low, high) :: done) rest
    | c :: rest => classRanges n ((c, c) :: done) rest
    | [] => none

/-- A class after its opening bracket, with the marks that negate it. -/
def readClass (marks : List Char) (text : Text) : Option (Kind × Text) :=
  let (negated, text) := match text with
    | c :: rest => if marks.contains c then (true, rest) else (false, text)
    | [] => (false, text)
  (classRanges (text.length + 1) [] text).map fun (ranges, rest) => (.oneOf negated ranges, rest)

open Precompiler.Text (Scan)

/-- A special character, which the extended expressions write bare and the basic ones behind
a backslash. -/
def special (isExtended : Bool) (c : Char) : Scan Unit :=
  Scan.exactly (if isExtended then [c] else ['\\', c])

/-- The bounds between braces. -/
def bounds (isExtended : Bool) : Scan (Nat × Option Nat) := do
  let number : Scan Nat := do return (String.ofList (← Scan.some Char.isDigit)).toNat?.getD 0
  special isExtended '\x7b'
  let low ← number <|> return 0
  let high : Option Nat ←
    if ← Scan.skip? [','] then (do return some (← number)) <|> return none else pure (some low)
  special isExtended '\x7d'
  return (low, high)

/-- How often the expression in front is repeated, if a mark says so. -/
def repetition (isExtended : Bool) : Scan (Nat × Option Nat) :=
  (do Scan.char '*'; return (0, none)) <|>
  (do special isExtended '+'; return (1, none)) <|>
  (do special isExtended '?'; return (0, some 1)) <|>
  bounds isExtended

def character (isExtended : Bool) : Scan Regex := do
  match ← Scan.next with
  | '.' => return .item .any
  | '[' =>
    match readClass ['^'] (← Scan.rest) with
    | some (kind, rest) => do
      set rest
      return .item kind
    | none => failure
  | '\\' =>
    let c ← Scan.next
    if c == '(' || c == ')' || c == '|' || c == '\x7b' || c == '\x7d' then
      if isExtended then return .item (.one c) else failure
    else if c.isDigit then return .back (c.toNat - 48)
    else return .item (.one (if c == 'n' then '\n' else if c == 't' then '\t' else c))
  | c =>
    if isExtended && (c == '(' || c == ')' || c == '|') then failure else return .item (.one c)

/-- A piece of an expression with its repetition; `inner` reads an expression in a group. -/
def piece (isExtended : Bool) (inner : Scan Regex) : Scan Regex := do
  let body ←
    (do
      special isExtended '('
      let body ← inner
      special isExtended ')'
      return .group 0 body) <|>
    (do
      Scan.char '$'
      let rest ← Scan.rest
      if rest.isEmpty || [')'].isPrefixOf rest || ['\\', ')'].isPrefixOf rest ||
          ['|'].isPrefixOf rest then return .atEnd
      else failure) <|>
    character isExtended
  let marks ← Scan.repeated (repetition isExtended)
  return marks.foldl (fun body (low, high) => .many body low high) body

/-- An expression with at most so many groups within one another. -/
def expressionWithin (isExtended : Bool) : Nat → Scan Regex
  | 0 => failure
  | n + 1 => do
    let inner := expressionWithin isExtended n
    let branch : Scan Regex := do
      let start ← (do Scan.char '^'; return [Regex.atStart]) <|> return []
      return Regex.ofList (start ++ (← Scan.repeated (piece isExtended inner)))
    let first ← branch
    let others ← Scan.repeated (do special isExtended '|'; branch)
    return others.foldl .either first

/-- An expression with its groups numbered from left to right, and the next number. -/
def Regex.numbered : Regex → Nat → Regex × Nat
  | .both first second, n =>
    let (first, n) := first.numbered n
    let (second, n) := second.numbered n
    (.both first second, n)
  | .either first second, n =>
    let (first, n) := first.numbered n
    let (second, n) := second.numbered n
    (.either first second, n)
  | .many body low high, n =>
    let (body, n) := body.numbered n
    (.many body low high, n)
  | .group _ body, n =>
    let (body, next) := body.numbered (n + 1)
    (.group n body, next)
  | other, n => (other, n)

/-- A basic or an extended regular expression. -/
def Regex.ofText? (isExtended : Bool) (text : Text) : Option Regex :=
  (Scan.whole? (expressionWithin isExtended 12) text).map fun regex => (regex.numbered 1).1

end Precompiler.Shell
