import Precompiler.Charset
import Precompiler.Naming
import Precompiler.Path

/-! Layers of settings.

Settings come in layers: each may set some of the fields and leaves the others open. Laid
over one another, the topmost layer that sets a field decides it, and the exclude patterns
of all layers count together. -/
namespace Precompiler

/-- The settings of a layer for compiling. -/
structure CompileSettings where
  dest : Option Path
  amd : Option Bool
  commonjs : Option String
  handlebarPath : Option String
  known : Option (List String)
  knownOnly : Option Bool
  registry : Option String
  simple : Option Bool
  root : Option String
  asPartial : Option Bool
  extension : Option String
  charset : Option String
  postParse : Option Path
  exclude : List String
  deriving Repr, DecidableEq

structure EngineSettings where
  node : Option String
  handlebarsModule : Option String
  deriving Repr, DecidableEq

structure Layer where
  compile : CompileSettings
  engine : EngineSettings
  deriving Repr, DecidableEq

namespace CompileSettings

/-- No setting at all. -/
def empty : CompileSettings where
  dest := none
  amd := none
  commonjs := none
  handlebarPath := none
  known := none
  knownOnly := none
  registry := none
  simple := none
  root := none
  asPartial := none
  extension := none
  charset := none
  postParse := none
  exclude := []

/-- The settings with others laid over them. -/
def merge (base top : CompileSettings) : CompileSettings where
  dest := top.dest.or base.dest
  amd := top.amd.or base.amd
  commonjs := top.commonjs.or base.commonjs
  handlebarPath := top.handlebarPath.or base.handlebarPath
  known := top.known.or base.known
  knownOnly := top.knownOnly.or base.knownOnly
  registry := top.registry.or base.registry
  simple := top.simple.or base.simple
  root := top.root.or base.root
  asPartial := top.asPartial.or base.asPartial
  extension := top.extension.or base.extension
  charset := top.charset.or base.charset
  postParse := top.postParse.or base.postParse
  exclude := base.exclude ++ top.exclude

end CompileSettings

namespace EngineSettings

/-- No setting at all. -/
def empty : EngineSettings := ⟨none, none⟩

/-- The settings with others laid over them. -/
def merge (base top : EngineSettings) : EngineSettings where
  node := top.node.or base.node
  handlebarsModule := top.handlebarsModule.or base.handlebarsModule

/-- The program that runs the engine. -/
def nodeProgram (settings : EngineSettings) : String := settings.node.getD "node"

/-- The module that holds the engine. -/
def engineModule (settings : EngineSettings) : String :=
  settings.handlebarsModule.getD "handlebars"

end EngineSettings

namespace Layer

/-- The layer that sets nothing. -/
def empty : Layer := ⟨.empty, .empty⟩

/-- The layer with another one laid over it. -/
def merge (base top : Layer) : Layer :=
  ⟨base.compile.merge top.compile, base.engine.merge top.engine⟩

/-- Refuses a layer whose extensions or charset cannot be used. -/
def validate (layer : Layer) : Except Failure Unit := do
  match layer.compile.extension with
  | some list => discard (ExtensionPattern.ofList list)
  | none => pure ()
  match layer.compile.charset with
  | some name => discard (Charset.ofName name)
  | none => pure ()

/-- The layer with its hook script anchored: a relative script is meant relative to a
directory, unless the directory has an empty name. -/
def anchor (layer : Layer) (directory : Path) : Layer :=
  let anchored (script : Path) : Path :=
    if script.isAbsolute || directory == "" then script else directory.join script
  { layer with compile := { layer.compile with postParse := layer.compile.postParse.map anchored } }

end Layer

end Precompiler
