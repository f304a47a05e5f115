import Precompiler.Facts
import Precompiler.Options

/-! Modules.

A module is a preamble, the statement that registers the template, and a closer. Which
ones is a matter of the style: the bare payload, an AMD definition, a CommonJS module, or
a function that is called on the spot. An AMD definition returns one thing: its only
template, or for bulk input the object in which all templates are registered. -/
namespace Precompiler

/-- The form of a module. -/
inductive WrapperStyle where
  /-- The bare payload. -/
  | simple
  | amd (handlebarPath : String)
  | commonJs (moduleName : String)
  /-- A function that is called on the spot. -/
  | immediate
  deriving Repr, DecidableEq

namespace WrapperStyle

/-- The style that options ask for: simple before AMD before CommonJS. -/
def ofOptions (options : Options) : WrapperStyle :=
  if options.simple then simple
  else if options.amd then amd options.handlebarPath
  else
    match options.commonjsModule with
    | some moduleName => commonJs moduleName
    | none => immediate

/-- The line that makes the registry known inside a module. -/
def binding (registry : String) : String :=
  "  var template = Handlebars.template, templates = " ++ registry ++ " = " ++ registry ++
    " || \x7b\x7d;\n"

/-- What comes before the registration. -/
def preamble (registry : String) : WrapperStyle → String
  | simple => ""
  | amd handlebarPath =>
    "define(['" ++ handlebarPath ++ "handlebars'], function(Handlebars) \x7b\n" ++ binding registry
  | commonJs moduleName => "var Handlebars = require(\"" ++ moduleName ++ "\");"
  | immediate => "(function() \x7b\n" ++ binding registry

/-- The object in which a template is registered. -/
def registryOf (asPartial : Bool) : String :=
  if asPartial then "Handlebars.partials" else "templates"

/-- What comes after the registration. -/
def closer (asPartial : Bool) (facts : InputFacts) : WrapperStyle → String
  | simple | commonJs _ => ""
  | immediate => "\x7d)();"
  | amd _ =>
    (if facts.isBulk then "return " ++ registryOf asPartial ++ ";\n" else "") ++ "\x7d);"

/-- Whether a module returns its template where it registers it. -/
def returnsTemplate (facts : InputFacts) : WrapperStyle → Bool
  | amd _ => facts.isSingleFile
  | _ => false

end WrapperStyle

/-- The statement that registers a payload under a name. -/
def registration (name payload : String) (asPartial returns : Bool) : String :=
  (if returns then "return " else "") ++ WrapperStyle.registryOf asPartial ++ "['" ++ name ++
    "'] = template(" ++ payload ++ ");\n"

/-- The text of a module. -/
def assemble (name payload : String) (options : Options) (facts : InputFacts) : String :=
  let style := WrapperStyle.ofOptions options
  match style with
  | .simple => payload ++ "\n"
  | _ =>
    style.preamble options.registry ++
      registration name payload options.asPartial (style.returnsTemplate facts) ++
      style.closer options.asPartial facts

end Precompiler
