import Precompiler.Batch
import Precompiler.CommandLine.Arguments
import Precompiler.Config.Options
import Precompiler.Config.Resolve
import Precompiler.Engine.Hook

/-! The command `compile`.

The command line is the topmost layer of settings. It can set something, but never unset
it: a switch that is not given leaves the layers below alone, and so does an empty list. -/
namespace Precompiler.CommandLine

/-- What a run finds around it, the files apart. -/
structure Environment where
  /-- Where the user's config files are. -/
  configHome : Path
  /-- Where programs are looked for. -/
  searchPath : List Path

namespace Arguments

/-- A switch as a setting. -/
def switched (isOn : Bool) : Option Bool := if isOn then some true else none

/-- The layer of settings that the command line amounts to. -/
def layer (a : Arguments) : Layer where
  compile := {
    dest := a.dest
    amd := switched a.amd
    commonjs := a.commonjs
    handlebarPath := a.handlebarPath
    known := if a.known.isEmpty then none else some a.known
    knownOnly := switched a.knownOnly
    registry := a.registry
    simple := switched a.simple
    root := a.root
    asPartial := switched a.asPartial
    extension := a.extension
    charset := a.charset
    postParse := a.postParse
    exclude := a.exclude }
  engine := { node := a.node, handlebarsModule := none }

end Arguments

/-- A compiled template on the screen. -/
def previewText (compiled : Compiled) : String :=
  "==> " ++ compiled.input ++ " [" ++ compiled.name ++ "]\n" ++ compiled.text ++ "\n\n"

/-- The last words of a batch. -/
def summary (dryRun : Bool) (count : Nat) : String :=
  if dryRun then
    "ℹ Dry run — " ++ toString count ++ " templates compiled, no files written.\n"
  else "✓ " ++ toString count ++ " templates compiled\n"

def workingDirectory : Action Path := do
  match (← Action.files).here with
  | some spot => return "/" ++ "/".intercalate spot
  | none => throw (.io .findingDirectory)

/-- The settings of a run: the layers of the config files, and the command line on top. -/
def settingsOf (environment : Environment) (files : Files) (directory : Path)
    (arguments : Arguments) : Except Failure Layer := do
  let base ← Layer.resolve files environment.configHome arguments.config directory
  return base.merge arguments.layer

/-- Compiles what the command line asks for. -/
def compile [Glob.Joining] [ScriptLanguage] [EngineMaker] (environment : Environment) (arguments : Arguments) :
    Action Unit := do
  let directory ← workingDirectory
  let files ← Action.files
  let settings ← Action.ofExcept (settingsOf environment files directory arguments)
  let options ← Action.ofExcept (Options.ofSettings (Hook.load files) settings.compile)
  let engine := EngineMaker.engineOf environment.searchPath files settings.engine.nodeProgram
    settings.engine.engineModule
  let batch : Batch :=
    ⟨arguments.sources, settings.compile.dest, settings.compile.exclude, arguments.dryRun⟩
  let compiled ← compileBatch engine batch options
  if arguments.dryRun then Action.sayAll (compiled.map previewText)
  Action.tell (summary arguments.dryRun compiled.length)

end Precompiler.CommandLine
