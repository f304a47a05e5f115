import Precompiler.Config.Document
import Precompiler.Files.Resolve

/-! Where the settings of a run come from.

Two config files may take part: the user's, and one for the project. The project's is the
one that was asked for, or else an `hbsc.toml` in the working directory. A hook script is
anchored where it is named, when its file is read, and never again. -/
namespace Precompiler

namespace Layer

/-- The name of a project's config file. -/
def configFile : String := "hbsc.toml"

/-- The layer in a config file. -/
def read (files : Files) (path : Path) : Except Failure Layer := do
  let text ← match (files.read? path).bind String.fromUTF8? with
    | some text => pure text
    | none => throw (.io (.reading path))
  let layer ← match ofDocument? text with
    | some layer => pure layer
    | none => throw (.configParse path)
  let anchored := match path.parent? with
    | some directory => layer.anchor directory
    | none => layer
  anchored.validate
  return anchored

/-- The layer that was asked for by the path of its file or of the file's directory. -/
def load (files : Files) (path : Path) : Except Failure Layer :=
  let path := if files.isDirectory path then path.join configFile else path
  if files.exists? path then read files path else .error (.configNotFound path)

/-- The layer in a directory's config file, if there is one. -/
def discover (files : Files) (directory : Path) : Except Failure (Option Layer) :=
  let path := directory.join configFile
  if files.isFile path then (load files path).map some else .ok none

/-- The user's layer, if there is one. -/
def user (files : Files) (configHome : Path) : Except Failure (Option Layer) :=
  let path := (configHome.join "hbsc").join "config.toml"
  if files.exists? path then (read files path).map some else .ok none

/-- The layers of the files that take part, laid over one another. -/
def resolve (files : Files) (configHome : Path) (explicit : Option Path) (directory : Path) :
    Except Failure Layer := do
  let base := (← user files configHome).getD empty
  let project ← match explicit with
    | some path => some <$> load files path
    | none => discover files directory
  match project with
  | some project => return base.merge project
  | none => return base

end Layer

end Precompiler
