import Precompiler.Text.Scan

/-! Shell scripts.

Engine programs are often small scripts for the command shell. This module holds what such
a script is made of. Every character of a script stands for one byte, and so does every
character that a script works with, so no text is ever invalid. -/
namespace Precompiler.Shell

/-- Bytes, one character for each. -/
abbrev Text := List Char

def isBlank (c : Char) : Bool := c == ' ' || c == '\t'

def isNameChar (c : Char) : Bool := c.isAlphanum || c == '_'

mutual

/-- A part of a word. What is quoted is neither split into fields nor read as a pattern. -/
inductive Part where
  | text (chars : Text) (isQuoted : Bool)
  /-- What is made of the value of a variable or a parameter. -/
  | variable (name : Text) (use : Use) (isQuoted : Bool)
  /-- What a command writes. -/
  | output (body : Command) (isQuoted : Bool)
  /-- The value of an arithmetic expression. -/
  | arithmetic (expression : List Part)

/-- What is made of a value. `orEmpty` counts an empty value as missing. -/
inductive Use where
  | value
  | length
  /-- Another text stands in for a missing value, and may be kept as the value. -/
  | fallback (orEmpty keep : Bool) (word : List Part)
  /-- Another text stands in for a value that is not missing. -/
  | substitute (orEmpty : Bool) (word : List Part)
  /-- A missing value ends the script. -/
  | demand (orEmpty : Bool) (word : List Part)
  /-- The value without what a pattern matches at its front or at its end. -/
  | trimmed (atEnd longest : Bool) (pattern : List Part)

/-- Where a command reads from or writes to. -/
inductive Redirection where
  | toFile (descriptor : Nat) (extending : Bool) (target : List Part)
  | toDescriptor (descriptor other : Nat)
  | fromFile (target : List Part)
  | fromText (text : List Part)

inductive Command where
  /-- A command of words; `below` lines of the script come after the one where it begins. -/
  | simple (below : Nat) (assignments : List (Text × List Part)) (words : List (List Part))
  | redirected (body : Command) (redirections : List Redirection)
  | pipe (left right : Command)
  /-- The second command runs only if the first succeeds, or only if it fails. -/
  | chain (left : Command) (ifSuccess : Bool) (right : Command)
  | negated (body : Command)
  | sequence (commands : List Command)
  | conditional (test yes no : Command)
  | loop (test : Command) (whileSuccess : Bool) (body : Command)
  | each (name : Text) (words : List (List Part)) (body : Command)
  | choice (word : List Part) (branches : List (List (List Part) × Command))
  | subshell (body : Command)
  | function (name : Text) (body : Command)

end

abbrev Word := List Part

/-- The command that does nothing. -/
def Command.idle : Command := .sequence []

end Precompiler.Shell
