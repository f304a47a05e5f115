import Precompiler.Files.Resolve

/-! Walking a directory.

A walk visits everything below a directory. The entries of each directory come in the
byte order of their names, and what a directory holds comes right after it. Links are
shown, not followed. The order of a listing therefore leaves no trace in a walk. -/
namespace Precompiler

/-- One step of a walk. -/
inductive WalkStep where
  /-- An entry, with the names that lead to it from where the walk began. -/
  | visit (names : List String) (path : Path) (entry : Entry)
  /-- A directory that cannot be listed. -/
  | unlisted (path : Path)

namespace FileTree

/-- A directory's entries in the byte order of their names. -/
def sortedListing (tree : FileTree) (directory : Location) : List (String × Entry) :=
  (tree.listing directory).mergeSort fun a b => !decide (b.1 < a.1)

/-- The walk of the directory at a location, which is reached by `path` and by the names
`names`, through at most `n` levels. -/
def walkWithin (tree : FileTree) : Nat → Location → Path → List String → List WalkStep
  | 0, _, _, _ => []
  | n + 1, spot, path, names =>
    if !path.isUsable then [.unlisted path]
    else (tree.sortedListing spot).flatMap fun (name, entry) =>
      .visit (names ++ [name]) (path.join name) entry ::
        if entry.isDirectory then
          walkWithin tree n (spot ++ [name]) (path.join name) (names ++ [name])
        else []

/-- The walk of everything below the directory at a location. -/
def walk (tree : FileTree) (spot : Location) (path : Path) : List WalkStep :=
  tree.walkWithin tree.height spot path []

end FileTree

end Precompiler
