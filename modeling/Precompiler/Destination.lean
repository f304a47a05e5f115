import Precompiler.Files.Resolve
import Precompiler.Naming

/-! Where modules go.

A destination that looks like a file, by its extension, takes all modules of a run; any
other is a directory, which takes each module under the name of its template. Without a
destination modules go into the only source, if that is a directory, and otherwise beside
their templates. -/
namespace Precompiler

/-- Where the modules of a run go. -/
inductive Destination where
  | directory (path : Path)
  | file (path : Path)
  | besideInput
  /-- Nowhere: nothing is written. -/
  | discard
  deriving Repr, DecidableEq

namespace Destination

/-- Whether a destination means a directory: it is one, or it ends like one, or it has no
extension. -/
def isDirectoryFormat (files : Files) (path : Path) : Bool :=
  files.isDirectory path || path.toList.getLast? == some '/' || (Path.extension? path).isNone

/-- The destination that is meant by a path, or by its absence. -/
def resolve (files : Files) (dest : Option Path) (sources : List Path) : Destination :=
  match dest, sources with
  | some path, _ => if isDirectoryFormat files path then directory path else file path
  | none, [source] => if files.isDirectory source then directory source else besideInput
  | none, _ => besideInput

/-- The file name of the module of a template. -/
def moduleName (pattern : ExtensionPattern) (input : Path) : String :=
  pattern.replace ((Path.fileName? input).getD "") ".js"

/-- The path of the module of a template. -/
def outputPath (destination : Destination) (pattern : ExtensionPattern) (input : Path) :
    Option Path :=
  match destination with
  | directory path => some (Path.join path (moduleName pattern input))
  | file path => some path
  | besideInput => some (Path.withFileName input (moduleName pattern input))
  | discard => none

end Destination

end Precompiler
