import Precompiler.Action
import Precompiler.Text.Literal

/-! The log.

Notes are made without asking who wants them; a filter decides which of them are shown. A
filter is a list of directives, each naming a level and, if it likes, the programs that it
is about. The most exact directive that is about this program counts. -/
namespace Precompiler

namespace Level

/-- How a level is shown. -/
def name : Level → String
  | error => "ERROR"
  | warn => "WARN"
  | info => "INFO"
  | debug => "DEBUG"
  | trace => "TRACE"

/-- How many levels are at least as urgent. -/
def rank : Level → Nat
  | error => 1
  | warn => 2
  | info => 3
  | debug => 4
  | trace => 5

/-- The rank down to which a word wants notes to be shown; the word may be a number. -/
def rankOfWord? (word : String) : Option Nat :=
  match word.toLower with
  | "off" | "0" => some 0
  | "error" | "1" => some 1
  | "warn" | "2" => some 2
  | "info" | "3" => some 3
  | "debug" | "4" => some 4
  | "trace" | "5" => some 5
  | _ => none

end Level

namespace Note

/-- The value of a field. -/
def shownValue : Shown → String
  | .plain text => text
  | .quoted text => Text.quoted text
  | .number n => toString n

/-- The line of a note. -/
def line (note : Note) : String :=
  " ".intercalate (note.level.name :: note.message ::
    note.fields.map fun (name, value) => name ++ "=" ++ shownValue value)

end Note

/-- A directive of a filter: how far down notes are shown, and what the names of the programs
that it is about begin with. -/
structure Directive where
  target : String
  rank : Nat
  deriving Repr, DecidableEq

/-- Which notes are shown. -/
structure LogFilter where
  directives : List Directive
  deriving Repr, DecidableEq

namespace Directive

/-- Whether a character can stand in a target. -/
def isTargetChar (c : Char) : Bool := c.isAlphanum || c = '_' || c = ':' || c = '-'

/-- Whether a text can be a target. -/
def isTarget (text : List Char) : Bool := !text.isEmpty && text.all isTargetChar

/-- The directive that a text describes: a level, a target, or both with `=` between them. A
target alone wants everything. -/
def ofText? (text : String) : Option Directive :=
  match Level.rankOfWord? text with
  | some rank => some ⟨"", rank⟩
  | none =>
    let target := text.toList.takeWhile (· != '=')
    if !isTarget target then none
    else
      match text.toList.dropWhile (· != '=') with
      | [] | ['='] => some ⟨String.ofList target, Level.trace.rank⟩
      | _ :: level => (Level.rankOfWord? (String.ofList level)).map (⟨String.ofList target, ·⟩)

end Directive

namespace LogFilter

/-- The name under which this program logs. -/
def programName : String := "hbsc"

/-- The filter that a text describes, its directives between commas. No directive at all
wants errors only. -/
def ofText? (text : String) : Option LogFilter := do
  let words := (text.splitOn ",").filter (· != "")
  if words.isEmpty then return ⟨[⟨"", Level.error.rank⟩]⟩
  return ⟨← words.mapM Directive.ofText?⟩

/-- The filter for so many wishes for more. -/
def ofVerbosity : Nat → LogFilter
  | 0 => ⟨[⟨"", Level.warn.rank⟩]⟩
  | 1 => ⟨[⟨programName, Level.debug.rank⟩]⟩
  | _ => ⟨[⟨programName, Level.trace.rank⟩]⟩

/-- The filter that the environment asks for, if it does so with a valid text. -/
def choose (asked : Option String) (verbosity : Nat) : LogFilter :=
  (asked.bind ofText?).getD (ofVerbosity verbosity)

/-- How far down the notes of this program are shown: as the directive with the longest target
wants it, and the last one of these. -/
def rank (filter : LogFilter) : Nat :=
  let concerned := filter.directives.filter fun d => programName.startsWith d.target
  let best := concerned.foldl (fun best d =>
    if best.target.length ≤ d.target.length then d else best) ⟨"", 0⟩
  best.rank

/-- Whether a note is shown. -/
def admits (filter : LogFilter) (note : Note) : Bool := note.level.rank ≤ filter.rank

end LogFilter

end Precompiler
