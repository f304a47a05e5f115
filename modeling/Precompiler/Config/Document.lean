import Precompiler.Config.Layer
import Precompiler.Toml.Document

/-! Layers written as documents.

A config file is a TOML document with two sections, both optional. What it does not know it
ignores; a setting of the wrong type spoils the whole document. A section is a table, but
its settings may also be listed in an array, without their names. -/
namespace Precompiler.Layer

open Toml (Fields)

def textOf : Toml → Option String
  | .string s => some s
  | _ => none

def switchOf : Toml → Option Bool
  | .boolean b => some b
  | _ => none

def textsOf : Toml → Option (List String)
  | .array elements => elements.mapM textOf
  | _ => none

structure Section where
  name : String
  /-- The names of its settings, in the order of an array. -/
  settings : List String
  /-- How many of the last settings an array may leave out. -/
  optional : Nat

def compileSection : Section where
  name := "compile"
  settings := ["dest", "amd", "commonjs", "handlebar_path", "known", "known_only", "namespace", "simple", "root",
    "partial", "extension", "charset", "post_parse", "exclude"]
  optional := 1

def engineSection : Section where
  name := "engine"
  settings := ["node", "handlebars_module"]
  optional := 0

/-- A section as a table. What an array has beyond the settings does not count, and a date is a table of
which nothing is known. -/
def Section.tableOf (part : Section) : Toml → Option Fields
  | .table _ fields => some fields
  | .array elements =>
    if part.settings.length ≤ elements.length + part.optional then some (part.settings.zip elements) else none
  | .dateTime => some []
  | _ => none

/-- A setting, which may be missing, but must not have the wrong type. -/
def setting {α : Type} (fields : Fields) (name : String) (type : Toml → Option α) :
    Option (Option α) :=
  match fields.lookup name with
  | none => some none
  | some value => (type value).map some

def compileOf (fields : Fields) : Option CompileSettings := do
  return {
    dest := ← setting fields "dest" textOf
    amd := ← setting fields "amd" switchOf
    commonjs := ← setting fields "commonjs" textOf
    handlebarPath := ← setting fields "handlebar_path" textOf
    known := ← setting fields "known" textsOf
    knownOnly := ← setting fields "known_only" switchOf
    registry := ← setting fields "namespace" textOf
    simple := ← setting fields "simple" switchOf
    root := ← setting fields "root" textOf
    asPartial := ← setting fields "partial" switchOf
    extension := ← setting fields "extension" textOf
    charset := ← setting fields "charset" textOf
    postParse := ← setting fields "post_parse" textOf
    exclude := (← setting fields "exclude" textsOf).getD [] }

def engineOf (fields : Fields) : Option EngineSettings := do
  return {
    node := ← setting fields "node" textOf
    handlebarsModule := ← setting fields "handlebars_module" textOf }

/-- The layer that a document describes. -/
def ofDocument? (text : String) : Option Layer := do
  let fields ← Toml.parse? text
  let compile ← setting fields compileSection.name fun v => (compileSection.tableOf v).bind compileOf
  let engine ← setting fields engineSection.name fun v => (engineSection.tableOf v).bind engineOf
  return ⟨compile.getD .empty, engine.getD .empty⟩

end Precompiler.Layer
