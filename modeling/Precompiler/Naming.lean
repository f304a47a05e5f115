import Precompiler.Failure

/-! Template names.

A template is named after its path: the part that a root leaves over, or else the part
after the last separator, without the extension. Which extensions count is a list such
as `handlebars|hbs`; of several that fit, the longest is cut off, so the order of the
list never matters. -/
namespace Precompiler

/-- The extensions by which template files are recognised, at least one. -/
structure ExtensionPattern where
  /-- The list as it was written. -/
  list : String
  /-- Its non-empty entries. -/
  extensions : List (List Char)
  some_extension : extensions ≠ []

namespace ExtensionPattern

/-- The non-empty entries of a list whose separator is a bar. -/
def entries (list : String) : List (List Char) :=
  (list.toList.splitOn '|').filter (· ≠ [])

/-- The pattern of a written list; a list without entries is refused. -/
def ofList (list : String) : Except Failure ExtensionPattern :=
  if h : entries list = [] then .error (.invalidExtension list)
  else .ok ⟨list, entries list, h⟩

/-- Whether a text is a dot and one of the extensions, nothing else. -/
def isDotted (p : ExtensionPattern) : List Char → Bool
  | '.' :: rest => p.extensions.contains rest
  | _ => false

/-- A text up to the first place from which a dotted extension runs to its end. -/
def stem (p : ExtensionPattern) : List Char → List Char
  | [] => []
  | c :: rest => if p.isDotted (c :: rest) then [] else c :: p.stem rest

/-- Whether some dotted extension ends a text. -/
def endsText (p : ExtensionPattern) : List Char → Bool
  | [] => false
  | c :: rest => p.isDotted (c :: rest) || p.endsText rest

/-- Whether a name has one of the extensions. -/
def isMatch (p : ExtensionPattern) (name : String) : Bool := p.endsText name.toList

/-- A name without its extension. -/
def strip (p : ExtensionPattern) (name : String) : String := String.ofList (p.stem name.toList)

/-- A name with another ending in place of its extension. -/
def replace (p : ExtensionPattern) (name ending : String) : String := p.strip name ++ ending

end ExtensionPattern

/-! ### From a path to a name -/

/-- What follows the last separator of a path. -/
def baseNameChars (path : List Char) : List Char :=
  (path.reverse.takeWhile (· ≠ '/')).reverse

/-- What follows the last separator of a path. -/
def baseName (path : String) : String := String.ofList (baseNameChars path.toList)

/-- A path with a leading text taken off, if it begins with that text. -/
def dropLeading : List Char → List Char → Option (List Char)
  | [], path => some path
  | _ :: _, [] => none
  | c :: lead, d :: path => if c = d then dropLeading lead path else none

/-- The part of a path that its name is made of. Without a root that is the last
component. An empty root keeps the whole path; any other root is taken off together with
the separator after it, and only if both are there. -/
def belowRoot (root : Option String) (path : List Char) : List Char :=
  match root with
  | none => baseNameChars path
  | some root =>
    match root.toList with
    | [] => path
    | lead => (dropLeading (lead ++ ['/']) path).getD path

/-- The name of the template at a path. -/
def resolveName (path : String) (root : Option String) (pattern : ExtensionPattern) : String :=
  String.ofList (pattern.stem (belowRoot root path.toList))

end Precompiler
