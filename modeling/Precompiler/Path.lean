/-! Paths as they are written.

A path is a text and stays as its user wrote it: `a//b` and `a/./b` name the same file as
`a/b`, and are printed differently. The functions below read the *segments* of such a
text, those between its separators. A segment says nothing if it is empty, or if it is
`.` anywhere but at the very beginning. A path that is no text, because the bytes of a name
are not UTF-8, cannot be stated here. -/
namespace Precompiler

/-- A path, exactly as written. -/
abbrev Path := String

namespace Path

/-- What stands between the separators. -/
def segments (path : Path) : List String := (path.toList.splitOn '/').map String.ofList

/-- A text out of segments. -/
def ofSegments (segments : List String) : Path := "/".intercalate segments

/-- Whether a path starts from the root. -/
def isAbsolute (path : Path) : Bool := path.toList.head? == some '/'

/-- Whether a segment after the first says nothing. -/
def isIdle (segment : String) : Bool := segment == "" || segment == "."

/-- Segments without the idle ones at the end. The first segment is kept: alone it stands
for the root, or for the directory where a path starts. -/
def dropIdleEnd : List String → List String
  | [] => []
  | first :: rest => first :: (rest.reverse.dropWhile isIdle).reverse

/-- A path cut before its last component: the segments before it, and the component. The
root and the empty path have none. -/
def split? (path : Path) : Option (List String × String) :=
  match (dropIdleEnd path.segments).reverse with
  | [] => none
  | [only] => if only == "" then none else some ([], only)
  | last :: before => some (before.reverse, last)

/-- The path of the directory that holds a path's last component, if there is one; it is
empty for a lone component. -/
def parent? (path : Path) : Option Path :=
  path.split?.map fun (before, _) =>
    match dropIdleEnd before with
    | [""] => "/"
    | kept => ofSegments kept

/-- The last component, unless it is `.` or `..`. -/
def fileName? (path : Path) : Option String :=
  match path.split? with
  | some (_, name) => if name == "." || name == ".." then none else some name
  | none => none

/-- What follows the last dot of a file name. A dot at the very beginning of the name does
not count. -/
def extension? (path : Path) : Option String :=
  path.fileName?.bind fun name =>
    match name.toList.reverse.span (· ≠ '.') with
    | (after, _ :: _ :: _) => some (String.ofList after.reverse)
    | _ => none

/-- A path below another one. An absolute path stays as it is. -/
def join (base : Path) (path : String) : Path :=
  if Path.isAbsolute path then path
  else if base == "" || base.toList.getLast? == some '/' then base ++ path
  else base ++ "/" ++ path

/-- A path with another file name; one that has no file name gets it as a new component. -/
def withFileName (path : Path) (name : String) : Path :=
  match path.fileName?, path.parent? with
  | some _, some parent => parent.join name
  | _, _ => path.join name

/-- A path and the directories above it, nearest first. A path has fewer ancestors than
characters, so the count never runs out. -/
def ancestorsWithin : Nat → Path → List Path
  | 0, path => [path]
  | n + 1, path =>
    match path.parent? with
    | none => [path]
    | some parent => path :: ancestorsWithin n parent

/-- A path and the directories above it, nearest first. -/
def ancestors (path : Path) : List Path := ancestorsWithin path.length path

end Path

end Precompiler
