import Precompiler.Files.Walk
import Precompiler.Glob.Matching
import Precompiler.Naming
import Precompiler.Action

/-! The templates of a run.

A source that is no directory is a template, whatever its name. A directory stands for the
template files below it: regular files with one of the extensions that no exclude pattern
matches. A pattern is matched against the path below the source, not the whole path. -/
namespace Precompiler

/-- Exclude patterns, ready to be matched. -/
abbrev Excludes := List Glob.Pattern

namespace Excludes

/-- A written pattern. -/
def readOne (pattern : String) : Except Failure Glob.Pattern :=
  match Glob.Pattern.ofText? pattern with
  | some glob => .ok glob
  | none => .error (.globPattern pattern)

/-- Written patterns. Each has to be well-formed, and then they have to be put together. -/
def ofList [Glob.Joining] (patterns : List String) : Except Failure Excludes := do
  let globs ← patterns.mapM readOne
  if !Glob.Joining.joins globs then throw (.globPattern "<combined>")
  return globs

/-- Whether some pattern matches the path that names make up. -/
def isMatch (excludes : Excludes) (names : List String) : Bool :=
  excludes.any (·.isMatch (Path.ofSegments names).toUTF8.toList)

end Excludes

/-- The template that one step of the walk of a source contributes, if any. -/
def templateOfStep (pattern : ExtensionPattern) (excludes : Excludes) (source : Path) :
    WalkStep → Action (Option Path)
  | .unlisted _ => throw (.io (.walking source))
  | .visit names path entry => do
    if !entry.isFile || !pattern.isMatch (names.getLastD "") then return none
    if excludes.isMatch names then
      Action.log ⟨.debug, "excluded", [("path", .plain path)]⟩
      return none
    return some path

/-- The templates of a source. -/
def templatesOf (pattern : ExtensionPattern) (excludes : Excludes) (source : Path) :
    Action (List Path) := do
  let files ← Action.files
  match files.find? source with
  | none => throw (.sourceNotFound source)
  | some (spot, .directory _) =>
    return (← (files.tree.walk spot source).mapM (templateOfStep pattern excludes source)).filterMap id
  | some _ => return [source]

/-- The templates of sources, in the order of the sources. The patterns are looked at
before any source. -/
def collectInputs [Glob.Joining] (sources : List Path) (pattern : ExtensionPattern) (exclude : List String) :
    Action (List Path) := do
  let excludes ← Action.ofExcept (Excludes.ofList exclude)
  return (← sources.mapM (templatesOf pattern excludes)).flatten

end Precompiler
