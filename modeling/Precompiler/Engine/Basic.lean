import Precompiler.Failure
import Precompiler.Json.Value
import Precompiler.Action

/-! The template engine.

Templates are parsed and precompiled by an engine that this program only talks to. It
turns source text into a syntax tree and a syntax tree into an opaque payload; between the
two a hook may change the tree. The names of known helpers reach the engine in byte order
and each once, so it never matters how they were listed. -/
namespace Precompiler

/-- A template's syntax tree. Only the engine and the hooks look into it. -/
abbrev Ast := Json

/-! ### Options for the engine -/

/-- Names with one more, in byte order and each once. -/
def insertName (name : String) : List String → List String
  | [] => [name]
  | n :: rest =>
    if name = n then n :: rest
    else if name < n then name :: n :: rest
    else n :: insertName name rest

/-- What the engine is told about helpers: which are known, in byte order and each once,
and whether there are no others. -/
structure CompilerOptions where
  knownHelpers : List String
  knownHelpersOnly : Bool
  deriving Repr, DecidableEq

namespace CompilerOptions

/-- The options for helpers listed in any order. -/
def of (known : List String) (only : Bool) : CompilerOptions :=
  ⟨known.foldr insertName [], only⟩

/-- The known helpers as an object; each is mapped to `true`. -/
def helpersJson (options : CompilerOptions) : Json :=
  .obj (options.knownHelpers.map (·, .bool true))

def toJson (options : CompilerOptions) : Json :=
  .obj [("knownHelpers", options.helpersJson), ("knownHelpersOnly", .bool options.knownHelpersOnly)]

end CompilerOptions

/-! ### Engines and hooks -/

/-- An engine: two functions, and what the log is told before each of them is called. -/
structure Engine where
  parse : String → Except Failure Ast
  precompile : Ast → CompilerOptions → Except Failure String
  parseNotes : String → List Note
  precompileNotes : Ast → CompilerOptions → List Note

/-- Where engines come from: the engine that a program makes out of a module, with the program looked for
along a search path. -/
class EngineMaker where
  engineOf (searchPath : List Path) (files : Files) (program engineModule : String) : Engine

/-- A change of syntax trees. Beside the tree it gives the lines that it prints. -/
structure Hook where
  label : String
  apply : Ast → List String × Except Failure Ast

/-- From the source of a template to its payload. A template that the engine rejects is
reported under the name of its file; a hook's failure stays as it is. -/
def compileSource (engine : Engine) (file : Path) (source : String) (hook : Option Hook)
    (options : CompilerOptions) : Action String := do
  Action.logAll (engine.parseNotes source)
  let ast ← Action.ofExcept ((engine.parse source).mapError (Failure.blaming file))
  let ast ← match hook with
    | none => pure ast
    | some hook => do
      Action.log ⟨.debug, "applying post-parse hook", [("hook", .quoted hook.label), ("file", .plain file)]⟩
      let (printed, result) := hook.apply ast
      Action.sayAll printed
      Action.ofExcept result
  Action.logAll (engine.precompileNotes ast options)
  Action.ofExcept ((engine.precompile ast options).mapError (Failure.blaming file))

end Precompiler
