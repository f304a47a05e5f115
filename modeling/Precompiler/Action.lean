import Precompiler.Failure
import Precompiler.Files.Resolve

/-! Actions: what a command does to the world.

The world is the files and a journal of what has been shown so far: text on the two
outputs, and notes for the log. An action changes the world step by step and may fail at any
of them; what it did before stays done. -/
namespace Precompiler

/-- How much a note matters, most urgent first. -/
inductive Level where
  | error
  | warn
  | info
  | debug
  | trace
  deriving Repr, DecidableEq

/-- How the value of a note's field is shown: as it is, or between quotes. -/
inductive Shown where
  | plain (text : String)
  | quoted (text : String)
  | number (n : Nat)
  deriving Repr, DecidableEq

/-- A note for the log. -/
structure Note where
  level : Level
  message : String
  fields : List (String × Shown)
  deriving Repr, DecidableEq

/-- Something shown. -/
inductive Event where
  /-- Text on standard output. -/
  | output (text : String)
  /-- Text on standard error. -/
  | diagnostic (text : String)
  | note (note : Note)
  deriving Repr, DecidableEq

/-- The files, and what has been shown, first things first. -/
structure World where
  files : Files
  journal : List Event

/-- A step-by-step change of the world that may fail. -/
abbrev Action := ExceptT Failure (StateM World)

namespace Action

/-- Stops with a failure, or goes on with a value. -/
def ofExcept {α : Type} : Except Failure α → Action α
  | .ok a => pure a
  | .error failure => throw failure

/-- The files as they are now. -/
def files : Action Files := do return (← get).files

/-- Leaves the files in a new state. -/
def setFiles (files : Files) : Action Unit := modify fun world => { world with files }

/-- Adds to the journal. -/
def record (events : List Event) : Action Unit :=
  modify fun world => { world with journal := world.journal ++ events }

/-- Writes text to standard output. -/
def say (text : String) : Action Unit := record [.output text]

/-- Writes texts to standard output. -/
def sayAll (texts : List String) : Action Unit := record (texts.map .output)

/-- Writes text to standard error. -/
def tell (text : String) : Action Unit := record [.diagnostic text]

/-- Adds a note. -/
def log (note : Note) : Action Unit := record [.note note]

/-- Adds notes. -/
def logAll (notes : List Note) : Action Unit := record (notes.map .note)

end Action

namespace World

/-- What has been written to standard output. -/
def output (world : World) : String :=
  world.journal.foldl (fun text event =>
    match event with
    | .output more => text ++ more
    | _ => text) ""

/-- What has been written to standard error, the log apart. -/
def diagnostics (world : World) : String :=
  world.journal.foldl (fun text event =>
    match event with
    | .diagnostic more => text ++ more
    | _ => text) ""

/-- The notes for the log. -/
def notes (world : World) : List Note :=
  world.journal.filterMap fun
    | .note note => some note
    | _ => none

end World

end Precompiler
