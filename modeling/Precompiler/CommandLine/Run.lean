import Precompiler.CommandLine.Compile
import Precompiler.CommandLine.Reading
import Precompiler.Log
import Precompiler.Standard

/-! The program as a whole.

The words of the command line are read first; if they make no command, nothing is done. The
exit code tells how it went: 0 for done, 1 for a failure, 2 for a mistake of usage. -/
namespace Precompiler.CommandLine

/-- How a run of the program ends. -/
structure Ending where
  exitCode : Nat
  world : World
  /-- What of the log is shown. -/
  filter : LogFilter
  failure : Option Failure

namespace Ending

/-- The lines of the log. -/
def log (ending : Ending) : List String :=
  (ending.world.notes.filter ending.filter.admits).map Note.line

end Ending

/-- The end of a run whose words make no command. -/
def endWithUsage (files : Files) (filter : LogFilter) (usage : Usage) : Ending where
  exitCode := usage.exitCode
  world := ⟨files, [.output usage.text]⟩
  filter
  failure := none

/-- Runs the program on the words after its name. -/
def run [Glob.Joining] [ScriptLanguage] [EngineMaker] (environment : Environment)
    (logWish : Option String) (files : Files)
    (words : List String) : Ending :=
  match Arguments.ofWords words with
  | .error usage => endWithUsage files (.choose logWish 0) usage
  | .ok arguments =>
    let filter := LogFilter.choose logWish arguments.verbose
    match (compile environment arguments).run ⟨files, []⟩ with
    | (.ok (), world) => ⟨0, world, filter, none⟩
    | (.error failure, world) => ⟨1, world, filter, some failure⟩

end Precompiler.CommandLine
