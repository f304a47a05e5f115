import Precompiler.Charset
import Precompiler.Files.Write
import Precompiler.Action

/-! Writing modules.

A text is encoded first, so one that the charset cannot hold leaves no trace. Then the
directories are made that are not there, and the file is replaced as a whole. -/
namespace Precompiler

/-- The directory that will hold the file at a path. -/
def outputDirectory (path : Path) : Path :=
  match path.parent? with
  | some parent => if parent == "" then "." else parent
  | none => "."

/-- The failure that a replacement's fault amounts to. -/
def replaceFailure (path : Path) : Files.ReplaceFault → Failure
  | .temporary => .io (.creatingTemporary (outputDirectory path))
  | .rename => .io (.writing path)

/-- Makes a text the content of the file at a path. -/
def writeOutput (charset : Charset) (path : Path) (text : String) : Action Unit := do
  let bytes ← Action.ofExcept (charset.encode text path)
  let directory := outputDirectory path
  let (files, made) := (← Action.files).makeDirectories directory
  Action.setFiles files
  Action.ofExcept (made.mapError fun _ => .io (.creatingDirectory directory))
  let (files, replaced) := files.replaceFile directory path bytes
  Action.setFiles files
  Action.ofExcept (replaced.mapError (replaceFailure path))

/-- The text of the file at a path. -/
def readText (charset : Charset) (path : Path) : Action String := do
  match (← Action.files).read? path with
  | none => throw (.io (.reading path))
  | some bytes => Action.ofExcept (charset.decode bytes path)

/-- Tells the user that the module of a template has been written. -/
def sayWritten (input output : Path) : Action Unit := Action.say (input ++ " > " ++ output ++ "\n")

end Precompiler
