import Precompiler.Config.Layer
import Precompiler.Options

/-! The options that settings amount to.

What is not set has its standard value. The charset is looked up first; only then is the
hook script loaded. -/
namespace Precompiler.Options

/-- The options of settings, hook scripts being loaded by `load`. -/
def ofSettings (load : Path → Except Failure Hook) (settings : CompileSettings) :
    Except Failure Options := do
  let charset ← match settings.charset with
    | some name => Charset.ofName name
    | none => pure standard.charset
  let postParse ← match settings.postParse with
    | some path => some <$> load path
    | none => pure none
  return {
    amd := settings.amd.getD standard.amd
    commonjs := settings.commonjs
    handlebarPath := settings.handlebarPath.getD standard.handlebarPath
    known := settings.known.getD standard.known
    knownOnly := settings.knownOnly.getD standard.knownOnly
    registry := settings.registry.getD standard.registry
    simple := settings.simple.getD standard.simple
    root := settings.root
    asPartial := settings.asPartial.getD standard.asPartial
    extension := settings.extension.getD standard.extension
    charset, postParse }

end Precompiler.Options
