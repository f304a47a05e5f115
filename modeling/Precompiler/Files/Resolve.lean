import Precompiler.Files.Tree
import Precompiler.Path

/-! What a path names.

A path is followed from the root or from the working directory, segment by segment. An
empty segment and `.` stay where they are, but only a directory can be stayed in, so
`a/` names nothing where `a` is a file. Links are followed at every step but, if so
wished, the last one; after forty of them the path is given up. -/
namespace Precompiler

/-- Why a path names nothing. -/
inductive PathFault where
  /-- Some name on the way is not there. -/
  | missing
  /-- Something on the way is no directory. -/
  | notDirectory
  /-- The path or one of its names is longer than the system admits, or holds a NUL. -/
  | unusable
  /-- Too many links. -/
  | loop
  /-- A directory takes no new entries. -/
  | isSealed
  /-- Something stands already where something new should go. -/
  | occupied
  deriving Repr, DecidableEq

/-- Where a path leads: to an entry, or to a free name in a directory. -/
inductive Target where
  | present (spot : Location) (entry : Entry)
  | absent (directory : Location) (name : String)

/-- A path is at most this many bytes long. -/
def maxPathBytes : Nat := 4095

/-- A name is at most this many bytes long. -/
def maxNameBytes : Nat := 255

/-- A path leads through at most this many links. -/
def maxLinks : Nat := 40

/-- Whether the system takes a path at all. -/
def Path.isUsable (path : Path) : Bool :=
  path.utf8ByteSize ≤ maxPathBytes && !path.toList.contains '\x00'

/-- A file tree seen from a working directory, which is none once it is deleted. -/
structure Files where
  tree : FileTree
  here : Option Location
  deriving Inhabited

namespace FileTree

/-- Where segments lead from a directory. What a link is worth is left to `onLink`, which
takes the directory it stands in, its target and the segments after it. -/
def trail (tree : FileTree) (followLast : Bool)
    (onLink : Location → Path → List String → Except PathFault Target) :
    Location → List String → Except PathFault Target
  | spot, [] =>
    match tree.get? spot with
    | some entry => .ok (.present spot entry)
    | none => .error .missing
  | spot, segment :: rest =>
    if segment == "" || segment == "." then trail tree followLast onLink spot rest
    else if segment == ".." then trail tree followLast onLink spot.dropLast rest
    else if segment.utf8ByteSize > maxNameBytes then .error .unusable
    else
      match tree.get? (spot ++ [segment]) with
      | none => if rest == [] then .ok (.absent spot segment) else .error .missing
      | some (.directory s) =>
        if rest == [] then .ok (.present (spot ++ [segment]) (.directory s))
        else trail tree followLast onLink (spot ++ [segment]) rest
      | some (.link target) =>
        if rest == [] && !followLast then .ok (.present (spot ++ [segment]) (.link target))
        else onLink spot target rest
      | some (.file content x) =>
        if rest == [] then .ok (.present (spot ++ [segment]) (.file content x))
        else .error .notDirectory

/-- Where segments lead from a directory through at most so many links. -/
def follow (tree : FileTree) (followLast : Bool) :
    Nat → Location → List String → Except PathFault Target
  | 0 => tree.trail followLast fun _ _ _ => .error .loop
  | n + 1 => tree.trail followLast fun spot target rest =>
    follow tree followLast n (if Path.isAbsolute target then [] else spot)
      (Path.segments target ++ rest)

end FileTree

namespace Files

/-- Where a path leads. -/
def resolve (files : Files) (path : Path) (followLast : Bool) : Except PathFault Target :=
  if path == "" then .error .missing
  else if !path.isUsable then .error .unusable
  else if path.isAbsolute then files.tree.follow followLast maxLinks [] path.segments
  else
    match files.here with
    | none => .error .missing
    | some here => files.tree.follow followLast maxLinks here path.segments

/-- The entry that a path names, links followed, and where it stands. -/
def find? (files : Files) (path : Path) : Option (Location × Entry) :=
  match files.resolve path true with
  | .ok (.present spot entry) => some (spot, entry)
  | _ => none

/-- Whether a path names anything, links followed. -/
def exists? (files : Files) (path : Path) : Bool := (files.find? path).isSome

/-- Whether a path names a directory, links followed. -/
def isDirectory (files : Files) (path : Path) : Bool :=
  match files.find? path with
  | some (_, entry) => entry.isDirectory
  | none => false

/-- Whether a path names a file, links followed. -/
def isFile (files : Files) (path : Path) : Bool :=
  match files.find? path with
  | some (_, entry) => entry.isFile
  | none => false

/-- The content of the file that a path names, links followed. -/
def read? (files : Files) (path : Path) : Option ByteArray :=
  match files.find? path with
  | some (_, .file content _) => some content
  | _ => none

end Files

end Precompiler
