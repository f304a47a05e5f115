import Precompiler.Engine.Process
import Precompiler.Naming
import Precompiler.Shell.Run

/-! Engine programs.

A program named with a separator is looked for right there, any other one in the
directories of the search path. What can be run here are scripts for the command shell;
they see the files as they are when the engine is set up. -/
namespace Precompiler.Program

/-- What looking for a program at one place gives. -/
inductive Sighting where
  | missing
  | refused
  | found (path : Path) (content : ByteArray)

/-- A program at a path. -/
def sight (files : Files) (path : Path) : Sighting :=
  match files.resolve path true with
  | .ok (.present _ (.file content true)) => .found path content
  | .ok (.present ..) => .refused
  | .ok (.absent ..) => .missing
  | .error .missing => .missing
  | .error _ => .refused

/-- A program in the first of some directories that has one that can be run. -/
def search (files : Files) (program : String) : List Path → Sighting
  | [] => .missing
  | directory :: rest =>
    match sight files (directory.join program) with
    | .found path content => .found path content
    | .missing => search files program rest
    | .refused =>
      match search files program rest with
      | .found path content => .found path content
      | _ => .refused

/-- A program by its name. -/
def locate (files : Files) (searchPath : List Path) (program : String) : Sighting :=
  if program.toList.contains '\x00' then .refused
  else if program.toList.contains '/' then sight files program
  else if program == "" then .missing
  else search files program searchPath

/-- The words of a script's first line, if it names an interpreter. -/
def interpreter? (script : Shell.Text) : Option (List String) :=
  match script with
  | '#' :: '!' :: rest =>
    let line := rest.takeWhile (· != '\n')
    some (((line.splitOnP Shell.isBlank).filter (· != [])).map String.ofList)
  | _ => none

/-- Whether the words of a first line name the command shell. -/
def isShell : List String → Bool
  | program :: arguments =>
    let name := if baseName program == "env" then arguments.headD "" else baseName program
    name == "sh" || name == "dash" || name == "bash"
  | [] => false

/-- A process takes at least this much of its input without reading it. -/
def pipeCapacity : Nat := 65536

/-- Bytes as a text of the shell. -/
def shellText (bytes : ByteArray) : Shell.Text := bytes.toList.map fun b => Char.ofNat b.toNat

/-- A text of the shell as bytes. -/
def shellBytes (text : Shell.Text) : ByteArray :=
  (text.map fun c => UInt8.ofNat c.toNat).toByteArray

/-- The UTF-8 bytes of a text as a text of the shell. -/
def shellWord (text : String) : Shell.Text := shellText text.toUTF8

/-- How a shell script goes on a request. -/
def runShell (files : Files) (path : Path) (invocation : Invocation) (script : Shell.Text)
    (request : ByteArray) : Outcome :=
  let bindings := invocation.bindings.map fun (name, value) => (shellWord name, shellWord value)
  let ending := Shell.runScript files (shellWord path) bindings (invocation.arguments.map shellWord) script
    (shellText request)
  .ended ending.success (ending.unread.length ≤ pipeCapacity) (shellBytes ending.output)
    (shellBytes ending.errors)

/-- How a program goes on a request. -/
def run (files : Files) (searchPath : List Path) (invocation : Invocation) (request : ByteArray) : Outcome :=
  match locate files searchPath invocation.program with
  | .missing => .notFound
  | .refused => .refused
  | .found path content =>
    let script := shellText content
    match interpreter? script with
    | some (interpreter :: arguments) =>
      match sight files interpreter with
      | .missing => .notFound
      | .refused => .refused
      | .found .. =>
        if isShell (interpreter :: arguments) then runShell files path invocation script request
        else .refused
    | _ => .refused

/-- The engine that a program implements. -/
def engine (files : Files) (searchPath : List Path) (program engineModule : String) : Engine :=
  .ofProgram program engineModule (run files searchPath)

end Precompiler.Program
