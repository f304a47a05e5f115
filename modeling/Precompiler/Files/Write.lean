import Precompiler.Files.Resolve

/-! Changing a file tree.

Directories are made together with those above them. A file is replaced as a whole: its
new content goes under a fresh name into the same directory, which then takes the place
of whatever the path names. A directory is never displaced, and a link is displaced
itself, not what it leads to. Either the file is there with its whole content or no file
has changed (`replaceFile`). -/
namespace Precompiler

namespace Path

/-- A path without the separators at its end, the root apart. -/
def dropEndSeparators (path : Path) : Path :=
  match (path.toList.reverse.dropWhile (· == '/')).reverse with
  | [] => if path == "" then "" else "/"
  | kept => String.ofList kept

/-- Whether a path ends in a name that something new can have: not in a separator, and
not in `.` or `..`. -/
def endsInName (path : Path) : Bool :=
  match path.segments.getLast? with
  | some name => !(name == "" || name == "." || name == "..")
  | none => false

end Path

namespace Files

/-- The files with an entry at a location. -/
def put (files : Files) (spot : Location) (entry : Entry) : Files :=
  { files with tree := files.tree.put spot entry }

/-- The files without what stands at a location. -/
def erase (files : Files) (spot : Location) : Files :=
  { files with tree := files.tree.erase spot }

/-- Whether the directory at a location takes new entries. -/
def isOpen (files : Files) (spot : Location) : Bool :=
  match files.tree.get? spot with
  | some (.directory s) => !s
  | _ => false

/-- Makes one directory. -/
def makeDirectory (files : Files) (path : Path) : Except PathFault Files :=
  match files.resolve path.dropEndSeparators false with
  | .error fault => .error fault
  | .ok (.present ..) => .error .occupied
  | .ok (.absent spot name) =>
    if files.isOpen spot then .ok (files.put (spot ++ [name]) (.directory false))
    else .error .isSealed

/-- Makes one directory, unless it is there already. -/
def ensureDirectory (files : Files) (path : Path) : Except PathFault Files :=
  match files.makeDirectory path with
  | .error .occupied => if files.isDirectory path then .ok files else .error .occupied
  | made => made

/-- Makes the first of some directories, each the parent of the one before it, and as many
of the others as that takes. What was made before a fault stays. -/
def makeChain (files : Files) : List Path → Files × Except PathFault Unit
  | [] => (files, .ok ())
  | path :: above =>
    if path == "" || path.parent?.isNone then (files, .ok ())
    else
      match files.ensureDirectory path with
      | .ok made => (made, .ok ())
      | .error .missing =>
        match makeChain files above with
        | (made, .error fault) => (made, .error fault)
        | (made, .ok ()) =>
          match made.ensureDirectory path with
          | .ok all => (all, .ok ())
          | .error fault => (made, .error fault)
      | .error fault => (files, .error fault)

/-- Makes a directory and the directories above it, as far as they are not there. -/
def makeDirectories (files : Files) (path : Path) : Files × Except PathFault Unit :=
  files.makeChain path.ancestors

/-! ### Replacing a file -/

/-- The length of the longest last name among entries. -/
def longestName : List (Location × Entry) → Nat
  | [] => 0
  | (spot, _) :: rest => max (spot.getLast?.elim 0 String.length) (longestName rest)

/-- A name that no entry has: it is longer than any of theirs. -/
def freshName (files : Files) : String :=
  ".tmp" ++ String.ofList (List.replicate (longestName files.tree.entries) 'x')

/-- Which part of replacing a file has failed. -/
inductive ReplaceFault where
  | temporary
  | rename
  deriving Repr, DecidableEq

/-- Gives the file at a location a new path. The file keeps its old place when the path
cannot be taken. -/
def rename (files : Files) (spot : Location) (content : ByteArray) (path : Path) :
    Except PathFault Files :=
  if !path.endsInName then .error .occupied
  else
    match files.resolve path false with
    | .error fault => .error fault
    | .ok (.present _ (.directory _)) => .error .occupied
    | .ok (.present goal _) => .ok ((files.erase spot).put goal (.file content false))
    | .ok (.absent directory name) =>
      if files.isOpen directory then
        .ok ((files.erase spot).put (directory ++ [name]) (.file content false))
      else .error .isSealed

/-- Puts a content under a path, by way of a temporary file in a directory. -/
def replaceFile (files : Files) (directory path : Path) (content : ByteArray) :
    Files × Except ReplaceFault Unit :=
  match files.find? directory with
  | some (spot, .directory false) =>
    let temporary := spot ++ [files.freshName]
    let written := files.put temporary (.file content false)
    match written.rename temporary content path with
    | .ok done => (done, .ok ())
    | .error _ => (written.erase temporary, .error .rename)
  | _ => (files, .error .temporary)

theorem length_le_longestName {spot : Location} {name : String} {entry : Entry}
    {entries : List (Location × Entry)} (h : entries.lookup (spot ++ [name]) = some entry) :
    name.length ≤ longestName entries := by
  induction entries with
  | nil => simp at h
  | cons head rest ih =>
    obtain ⟨k, e⟩ := head
    by_cases hk : spot ++ [name] = k
    · subst hk
      simp only [longestName, List.getLast?_append, List.getLast?_singleton, Option.some_or,
        Option.elim_some]
      exact Nat.le_max_left _ _
    · have hb : (spot ++ [name] == k) = false := by simpa using hk
      simp only [List.lookup_cons, hb] at h
      exact Nat.le_trans (ih h) (Nat.le_max_right _ _)

/-- The name of a temporary file is free in every directory. -/
theorem get?_freshName (files : Files) (spot : Location) :
    files.tree.get? (spot ++ [files.freshName]) = none := by
  unfold FileTree.get?
  simp only [List.append_eq_nil_iff, List.cons_ne_self, and_false, ↓reduceIte]
  cases h : files.tree.entries.lookup (spot ++ [files.freshName]) with
  | none => rfl
  | some entry =>
    have hlt : longestName files.tree.entries < files.freshName.length := by
      have hlead : 0 < ".tmp".length := by decide
      simp [freshName, String.length_append, hlead]
    exact absurd (length_le_longestName h) (by omega)

end Files

end Precompiler
