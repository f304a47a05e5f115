import Precompiler.Files.Resolve
import Precompiler.Shell.Numeral

/-! The state of a run.

A run takes a state to a state: the variables, what is left of the input, what has been
written, and how the last command ended. It sees the files as they were when it began. -/
namespace Precompiler.Shell

/-- What is to happen next: the next command, the end of a loop or of its present round,
the end of a function, or the end of the script. -/
inductive Flow where
  | onward
  | leaveLoop
  | nextRound
  | leaveFunction
  | exit
  deriving DecidableEq

structure State where
  /-- The name of the script. -/
  program : Text
  /-- The number of its lines. -/
  lines : Nat
  /-- The line of the present command. -/
  line : Nat
  /-- A failure that nobody looks at ends the script. -/
  isStrict : Bool
  files : Files
  bindings : List (Text × Text)
  functions : List (Text × Command)
  parameters : List Text
  input : Text
  output : Text
  errors : Text
  /-- How the last command ended; zero is success. -/
  status : Nat
  flow : Flow

namespace State

def ending (s : State) (status : Nat) : State := { s with status }

def succeeding (s : State) (success : Bool) : State := s.ending (if success then 0 else 1)

def writing (s : State) (text : Text) : State := { s with output := s.output ++ text, status := 0 }

def complaining (s : State) (status : Nat) (text : String) : State :=
  { s with errors := s.errors ++ text.toList ++ ['\n'], status }

/-- The state after a complaint of the shell itself, which tells the place. -/
def objecting (s : State) (status : Nat) (text : String) : State :=
  s.complaining status
    (String.ofList s.program ++ ": " ++ toString s.line ++ ": " ++ text)

/-- The state in which the script has ended. -/
def stopping (s : State) : State := { s with flow := .exit }

def setVariable (s : State) (name value : Text) : State :=
  { s with bindings := (name, value) :: s.bindings.filter (·.1 != name) }

/-- The content of a file, one character for each byte. -/
def fileText? (s : State) (path : Text) : Option Text :=
  if path == "/dev/null".toList then some []
  else (s.files.read? (String.ofList path)).map fun bytes => bytes.toList.map fun b => Char.ofNat b.toNat

end State

/-- The number of a run's process. -/
def processNumber : Nat := 4321

/-- The value of a variable or a parameter, if it has one. -/
def State.value? (s : State) (name : Text) : Option Text :=
  match name with
  | ['#'] => some (natText s.parameters.length)
  | ['?'] => some (natText s.status)
  | ['$'] => some (natText processNumber)
  | ['@'] | ['*'] => if s.parameters.isEmpty then none else some ([' '].intercalate s.parameters)
  | ['0'] => some s.program
  | _ =>
    if name.all Char.isDigit then s.parameters[(intOf name).toNat - 1]?
    else s.bindings.lookup name

/-- The value of a variable or a parameter; nothing if it has none. -/
def State.valueOf (s : State) (name : Text) : Text := (s.value? name).getD []

end Precompiler.Shell
