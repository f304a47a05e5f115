import Precompiler.Shell.Syntax

/-! Words read.

A word is a row of parts, quoted or not, with nothing between them. How its commands are read
is a parameter, so that words and commands can be read apart. -/
namespace Precompiler.Shell

open Precompiler.Text (Scan)

/-! ### Between words -/

/-- The characters that end a word. -/
def isMeta (c : Char) : Bool :=
  isBlank c || c == '\n' || c == ';' || c == '&' || c == '|' || c == '<' || c == '>' ||
    c == '(' || c == ')'

/-- The characters that stand for themselves in a word. -/
def isBare (c : Char) : Bool :=
  !isMeta c && c != '\'' && c != '"' && c != '\\' && c != '$' && c != '\x60'

/-- Blanks, joined lines, and a comment. -/
def blanks : Scan Unit := do
  discard (Scan.repeated (do discard (Scan.some isBlank) <|> Scan.exactly ['\\', '\n']))
  if (← Scan.peek?) == some '#' then discard (Scan.many (· != '\n'))

/-- Blanks and line ends. -/
def gap : Scan Unit := do
  discard (Scan.repeated (do blanks; Scan.char '\n'))
  blanks

/-- The word that comes next, as long as its characters stand for themselves. -/
def bareAhead : Scan Text := do return (← Scan.rest).takeWhile isBare

def keyword (word : String) : Scan Unit := do
  gap
  let chars ← bareAhead
  let after := ((← Scan.rest).drop chars.length).head?
  if chars == word.toList && (after.all isMeta) then Scan.exactly chars else failure

/-- The words that end a list of commands. -/
def closers : List Text :=
  ["then", "else", "elif", "fi", "do", "done", "esac", "\x7d"].map String.toList

/-! ### Words -/

/-- The name of a variable or a parameter after a dollar sign. -/
def variableName : Scan Text := do
  match ← Scan.peek? with
  | some c =>
    if c.isAlpha || c == '_' then Scan.many isNameChar
    else if c.isDigit || c == '#' || c == '?' || c == '$' || c == '@' || c == '*' || c == '!' then
      return [← Scan.next]
    else failure
  | none => failure

/-- The text of an arithmetic expression up to its two closing parentheses, and the rest. -/
def arithmeticText : Nat → Text → Option (Text × Text)
  | 0, ')' :: ')' :: rest => some ([], rest)
  | depth, '(' :: rest => (arithmeticText (depth + 1) rest).map fun (t, rest) => ('(' :: t, rest)
  | depth + 1, ')' :: rest => (arithmeticText depth rest).map fun (t, rest) => (')' :: t, rest)
  | depth, c :: rest => (arithmeticText depth rest).map fun (t, rest) => (c :: t, rest)
  | _, [] => none

def backquoted (list : Scan Command) (isQuoted : Bool) : Scan Part := do
  Scan.char '\x60'
  let inner ← Scan.many (· != '\x60')
  Scan.char '\x60'
  match Scan.whole? (do let body ← list; gap; return body) inner with
  | some body => return .output body isQuoted
  | none => failure

section Parts

/-! How the parts of a word are read is said for any way `dollar` of reading what follows a
dollar sign, quoted or not. -/

variable (dollar : Bool → Scan Part) (list : Scan Command)

/-- A part of what stands between double quotes. -/
def quotedPartWith (closing : Option Char) : Scan Part := do
  match ← Scan.peek? with
  | some '$' => do Scan.char '$'; dollar true
  | some '\x60' => backquoted list true
  | some '\\' => do
    Scan.char '\\'
    let c ← Scan.next
    if c == '\n' then return .text [] true
    else if c == '$' || c == '\x60' || c == '"' || c == '\\' then return .text [c] true
    else return .text ['\\', c] true
  | some c =>
    if closing == some c then failure
    else
      let chars ← Scan.some fun c => c != '$' && c != '\x60' && c != '\\' && closing != some c
      return .text chars true
  | none => failure

/-- A part of a word, of which the characters of a kind stand for themselves. -/
def partWith (isPlain : Char → Bool) : Scan (List Part) := do
  match ← Scan.peek? with
  | some '\'' => do
    Scan.char '\''
    let chars ← Scan.many (· != '\'')
    Scan.char '\''
    return [.text chars true]
  | some '"' => do
    Scan.char '"'
    let parts ← Scan.repeated (quotedPartWith dollar list (some '"'))
    Scan.char '"'
    return .text [] true :: parts
  | some '\\' => do
    Scan.char '\\'
    let c ← Scan.next
    return if c == '\n' then [] else [.text [c] true]
  | some '$' => do Scan.char '$'; return [← dollar false]
  | some '\x60' => return [← backquoted list false]
  | _ => return [.text (← Scan.some isPlain) false]

/-- The characters that stand for themselves between braces. -/
def isPlainInBraces (c : Char) : Bool := c != '\x7d' && (isBare c || isMeta c)

/-- A word between braces, read as if quoted or not. -/
def bracedWord (isQuoted : Bool) : Scan (List Part) :=
  if isQuoted then Scan.repeated (quotedPartWith dollar list (some '\x7d'))
  else do return (← Scan.repeated (partWith dollar list isPlainInBraces)).flatten

/-- What is made of a value, behind the name of its variable. -/
def useOf (isQuoted : Bool) : Scan Use :=
  (do
    let longest ← (do Scan.exactly ['%', '%']; return true) <|> (do Scan.char '%'; return false)
    return .trimmed true longest (← bracedWord dollar list false)) <|>
  (do
    let longest ← (do Scan.exactly ['#', '#']; return true) <|> (do Scan.char '#'; return false)
    return .trimmed false longest (← bracedWord dollar list false)) <|>
  (do
    let orEmpty ← Scan.skip? [':']
    match ← Scan.next with
    | '-' => return .fallback orEmpty false (← bracedWord dollar list isQuoted)
    | '=' => return .fallback orEmpty true (← bracedWord dollar list isQuoted)
    | '+' => return .substitute orEmpty (← bracedWord dollar list isQuoted)
    | '?' => return .demand orEmpty (← bracedWord dollar list isQuoted)
    | _ => failure) <|>
  return .value

end Parts

/-- What follows a dollar sign, with at most so many braces within one another; `list` reads
commands up to a closing parenthesis. -/
def dollarWithin (list : Scan Command) : Nat → Bool → Scan Part
  | 0, _ => failure
  | n + 1, isQuoted =>
    let dollar := dollarWithin list n
    (do
      Scan.exactly ['(', '(']
      match arithmeticText 0 (← Scan.rest) with
      | some (text, rest) =>
        match Scan.whole? (Scan.repeated (quotedPartWith dollar list none)) text with
        | some parts => do
          set rest
          return .arithmetic parts
        | none => failure
      | none => failure) <|>
    (do
      Scan.char '('
      let body ← list
      gap
      Scan.char ')'
      return .output body isQuoted) <|>
    (do
      Scan.exactly ['\x7b', '#']
      let name ← variableName
      Scan.char '\x7d'
      return .variable name .length isQuoted) <|>
    (do
      Scan.char '\x7b'
      let name ← variableName
      let use ← useOf dollar list isQuoted
      Scan.char '\x7d'
      return .variable name use isQuoted) <|>
    (do return .variable (← variableName) .value isQuoted) <|>
    return .text ['$'] isQuoted

/-- The braces within one another that are read. -/
def maxBraces : Nat := 6

def quotedPart (list : Scan Command) (closing : Option Char) : Scan Part :=
  quotedPartWith (dollarWithin list maxBraces) list closing

def part (list : Scan Command) : Scan (List Part) :=
  partWith (dollarWithin list maxBraces) list isBare

def wordOf (list : Scan Command) : Scan Word := do
  let first ← part list
  return first ++ (← Scan.repeated (part list)).flatten

end Precompiler.Shell
