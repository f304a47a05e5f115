import Precompiler.Charset
import Precompiler.Engine.Basic
import Precompiler.Naming

/-! The options of a run. -/
namespace Precompiler

/-- Everything that shapes the modules of a run. -/
structure Options where
  /-- Wrap each module in an AMD definition. -/
  amd : Bool
  /-- Wrap each module for CommonJS, with this module as the runtime. -/
  commonjs : Option String
  /-- What goes before `handlebars` in an AMD dependency. -/
  handlebarPath : String
  /-- Helpers that the engine may take for granted. -/
  known : List String
  /-- Whether there are no other helpers. -/
  knownOnly : Bool
  /-- The object in which templates are registered. -/
  registry : String
  /-- Write the bare payload. -/
  simple : Bool
  /-- The directory to which template names are relative. -/
  root : Option String
  /-- Register templates as partials. -/
  asPartial : Bool
  /-- The list of template extensions. -/
  extension : String
  charset : Charset
  postParse : Option Hook

namespace Options

/-- What holds for everything that is not set. -/
def standard : Options where
  amd := false
  commonjs := none
  handlebarPath := ""
  known := []
  knownOnly := false
  registry := "Handlebars.templates"
  simple := false
  root := none
  asPartial := false
  extension := "handlebars|hbs"
  charset := .utf8
  postParse := none

/-- The CommonJS module; an empty name is none. -/
def commonjsModule (options : Options) : Option String := options.commonjs.filter (· ≠ "")

/-- Whether both AMD and CommonJS are asked for; AMD wins. -/
def hasConflictingWrappers (options : Options) : Bool :=
  options.amd && options.commonjsModule.isSome

/-- What the engine is told. -/
def compilerOptions (options : Options) : CompilerOptions :=
  CompilerOptions.of options.known options.knownOnly

/-- The pattern of the template extensions. -/
def extensionPattern (options : Options) : Except Failure ExtensionPattern :=
  ExtensionPattern.ofList options.extension

end Options

end Precompiler
