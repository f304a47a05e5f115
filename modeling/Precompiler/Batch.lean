import Precompiler.Destination
import Precompiler.Inputs
import Precompiler.Output
import Precompiler.Text.Literal
import Precompiler.Wrapper

/-! Batches.

A batch compiles the templates of some sources one after another. Everything that can be
checked beforehand is: once the engine is called, the extensions, the exclude patterns and
the sources are known to be good. The first template that fails ends the batch, and the
modules written before it stay. -/
namespace Precompiler

/-- What all templates of a batch share: how their names are cut, and what the sources are
like. -/
structure Setup where
  pattern : ExtensionPattern
  facts : InputFacts

/-- The setup for options and sources. -/
def Setup.of (options : Options) (files : Files) (sources : List Path) : Except Failure Setup := do
  return ⟨← options.extensionPattern, InputFacts.ofSources files sources⟩

/-- A compiled template: where it was, where its module went, if anywhere, its name, and
the module's text. -/
structure Compiled where
  input : Path
  output : Option Path
  name : String
  text : String
  deriving Repr, DecidableEq

/-- Compiles one template, and writes its module if there is a path for it. -/
def compileTemplate (engine : Engine) (options : Options) (setup : Setup) (input : Path)
    (output : Option Path) : Action Compiled := do
  let name := resolveName input options.root setup.pattern
  Action.log ⟨.debug, "compiling template", [("input", .plain input), ("name", .plain name)]⟩
  let source ← readText options.charset input
  let payload ← compileSource engine input source options.postParse options.compilerOptions
  let text := assemble name payload options setup.facts
  match output with
  | none => pure ()
  | some path => do
    writeOutput options.charset path text
    sayWritten input path
  return ⟨input, output, name, text⟩

/-- Sources to be compiled together. -/
structure Batch where
  sources : List Path
  dest : Option Path
  exclude : List String
  /-- Compile, but write nothing. -/
  dryRun : Bool

namespace Batch

/-- Where the modules of a batch go. -/
def destination (batch : Batch) (files : Files) : Destination :=
  if batch.dryRun then .discard else .resolve files batch.dest batch.sources

end Batch

/-- How a destination is shown in the log. -/
def Destination.shown : Destination → String
  | directory path => "Directory(" ++ Text.quotedPath path ++ ")"
  | file path => "File(" ++ Text.quotedPath path ++ ")"
  | besideInput => "BesideInput"
  | discard => "Discard"

/-- Compiles a batch. -/
def compileBatch [Glob.Joining] (engine : Engine) (batch : Batch) (options : Options) :
    Action (List Compiled) := do
  if options.hasConflictingWrappers then
    Action.tell "warning: both --amd and --commonjs given; using AMD\n"
  let setup ← Action.ofExcept (Setup.of options (← Action.files) batch.sources)
  let inputs ← collectInputs batch.sources setup.pattern batch.exclude
  let destination := batch.destination (← Action.files)
  Action.log ⟨.debug, "starting batch", [("sources", .number setup.facts.count),
    ("inputs", .number inputs.length), ("destination", .plain destination.shown)]⟩
  inputs.mapM fun input =>
    compileTemplate engine options setup input (destination.outputPath setup.pattern input)

end Precompiler
