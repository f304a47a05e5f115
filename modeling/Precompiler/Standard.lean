import Precompiler.Engine.Program
import Precompiler.Glob.Pattern
import Precompiler.Script.Hook

/-! What stands in for the parts of others.

Which patterns can be put together, what a hook script does and which engine a program makes
is left open wherever it does not matter. To run, the program needs some choice of each. The
one here knows the limit on nesting, but none on size; it interprets scripts itself; and the
only programs that it can run are scripts for the command shell. -/
namespace Precompiler

/-- Patterns can be put together if none nests too deep. -/
instance joiningOfNesting : Glob.Joining where
  joins globs := !globs.any Glob.Pattern.isTooDeep
  joins_nil := rfl

instance interpretedScripts : ScriptLanguage where
  compile text :=
    match Script.ofText? text with
    | some script => .ok script.onTree
    | none => .error "the script does not compile"

instance shellEngines : EngineMaker where
  engineOf searchPath files := Program.engine files searchPath

end Precompiler
