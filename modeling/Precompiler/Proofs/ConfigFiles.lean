import Precompiler.Config.Options
import Precompiler.Config.Resolve
import Precompiler.Proofs.Actions
import Precompiler.Proofs.Files.Resolve
import Precompiler.Proofs.Naming

/-! Config files, and what settings amount to.

A config file is read if it is a text, the text is a document, and nothing that it sets is refused
(`Layer.read_ok`, `Layer.validate_eq_ok_iff`, `Layer.not_isSpoiled_of_read`). Two of them may take
part, the user's and the project's (`Layer.resolve_eq`). Settings amount to options once their charset
is known and their hook script is loaded (`Options.ofSettings_ok`). -/
namespace Precompiler

variable {files : Files} {failure : Failure} {options : Options}

/-- No charset has a name. -/
def Charset.IsUnknown (name : String) : Prop := ∀ charset, Charset.ofName name ≠ .ok charset

theorem Charset.ofName_eq_error_iff {name : String} :
    ofName name = .error failure ↔ IsUnknown name ∧ failure = .unsupportedCharset name := by
  unfold IsUnknown ofName
  split
  · simp
  · split
    · simp
    · simp [eq_comm]

theorem ExtensionPattern.exists_ofList_iff {list : String} : (∃ p, ofList list = .ok p) ↔ ¬IsBlank list := by
  simp only [Action.exists_eq_ok_iff, ne_eq, ofList_eq_error_iff]
  exact ⟨fun h hblank => h _ ⟨hblank, rfl⟩, fun hsome _ ⟨hblank, _⟩ => hsome hblank⟩

namespace Layer

variable {layer : Layer} {path : Path}

/-- A config file cannot be used: it is not there or no text, the text is no document of the right shape, or
the document sets an extension list or a charset that is refused. -/
inductive IsSpoiled (files : Files) (path : Path) : Prop where
  | unreadable : (files.read? path).bind String.fromUTF8? = none → IsSpoiled files path
  | unparsable {text : String} : (files.read? path).bind String.fromUTF8? = some text →
      ofDocument? text = none → IsSpoiled files path
  | extension {text list : String} {layer : Layer} : (files.read? path).bind String.fromUTF8? = some text →
      ofDocument? text = some layer → layer.compile.extension = some list → IsBlank list →
      IsSpoiled files path
  | charset {text name : String} {layer : Layer} : (files.read? path).bind String.fromUTF8? = some text →
      ofDocument? text = some layer → layer.compile.charset = some name → Charset.IsUnknown name →
      IsSpoiled files path

/-- A setting is checked if it is set, and what the check gives is forgotten. -/
def checked {α : Type} (setting : Option String) (check : String → Except Failure α) : Except Failure Unit :=
  match setting with
  | some text => discard (check text)
  | none => pure ()

theorem checked_eq_error_iff {α : Type} {setting : Option String} {check : String → Except Failure α} :
    checked setting check = .error failure ↔ ∃ text, setting = some text ∧ check text = .error failure := by
  cases setting with
  | none => simp [checked, pure, Except.pure]
  | some text =>
    cases hcheck : check text <;> simp [checked, hcheck, discard, Functor.discard, Functor.mapConst, Except.map]

theorem checked_eq_ok_iff {α : Type} {setting : Option String} {check : String → Except Failure α} :
    checked setting check = .ok () ↔ ∀ text ∈ setting, ∃ a, check text = .ok a := by
  cases setting with
  | none => simp [checked, pure, Except.pure]
  | some text =>
    cases hcheck : check text <;> simp [checked, hcheck, discard, Functor.discard, Functor.mapConst, Except.map]

theorem validate_eq (layer : Layer) : layer.validate = (do
    checked layer.compile.extension ExtensionPattern.ofList
    checked layer.compile.charset Charset.ofName) := by
  unfold validate checked
  cases layer.compile.extension <;> rfl

/-- What is accepted sets no extension list and no charset that is refused. -/
theorem validate_eq_ok_iff : layer.validate = .ok () ↔
    (∀ list ∈ layer.compile.extension, ¬IsBlank list) ∧
      ∀ name ∈ layer.compile.charset, ¬Charset.IsUnknown name := by
  have hboth : layer.validate = .ok () ↔
      checked layer.compile.extension ExtensionPattern.ofList = .ok () ∧
        checked layer.compile.charset Charset.ofName = .ok () := by
    rw [validate_eq, Action.bind_eq_ok_iff]
    exact ⟨fun ⟨_, h⟩ => h, fun h => ⟨(), h⟩⟩
  rw [hboth, checked_eq_ok_iff, checked_eq_ok_iff]
  simp only [ExtensionPattern.exists_ofList_iff, Charset.IsUnknown, ne_eq, not_forall, not_not]

/-- What is read is the layer of a document, anchored and then accepted. -/
theorem read_ok (h : read files path = .ok layer) :
    ∃ text own, (files.read? path).bind String.fromUTF8? = some text ∧ ofDocument? text = some own ∧
      layer.validate = .ok () ∧ layer = match path.parent? with
        | some directory => own.anchor directory
        | none => own := by
  unfold read at h
  rcases htext : (files.read? path).bind String.fromUTF8? with _ | text
  · rw [htext] at h
    cases h
  rcases hdocument : ofDocument? text with _ | own
  · simp only [htext, pure_bind, hdocument] at h
    cases h
  · simp only [htext, pure_bind, hdocument] at h
    obtain ⟨_, hvalid, heq⟩ := Action.bind_eq_ok_iff.mp h
    cases heq
    exact ⟨text, own, rfl, hdocument, hvalid, rfl⟩

/-- A config file that is read can be used. -/
theorem not_isSpoiled_of_read (h : read files path = .ok layer) : ¬IsSpoiled files path := by
  obtain ⟨text, own, htext, hdocument, hvalid, hanchored⟩ := read_ok h
  obtain ⟨hextension, hcharset⟩ := validate_eq_ok_iff.mp hvalid
  -- Anchoring touches neither the extension list nor the charset.
  have hsame : layer.compile.extension = own.compile.extension ∧
      layer.compile.charset = own.compile.charset := by
    rw [hanchored]
    cases path.parent? <;> exact ⟨rfl, rfl⟩
  rw [hsame.1] at hextension
  rw [hsame.2] at hcharset
  rintro (hnone | ⟨hother, hnone⟩ | ⟨hother, hlayer, hlist, hblank⟩ | ⟨hother, hlayer, hname, hunknown⟩)
  · cases hnone.symm.trans htext
  all_goals cases hother.symm.trans htext
  · cases hnone.symm.trans hdocument
  · cases hlayer.symm.trans hdocument
    exact hextension _ hlist hblank
  · cases hlayer.symm.trans hdocument
    exact hcharset _ hname hunknown

/-- The file that a path to a config file or to its directory stands for. -/
def filePath (files : Files) (path : Path) : Path :=
  if files.isDirectory path then path.join configFile else path

/-- The path of the user's config file. -/
def userPath (configHome : Path) : Path := (configHome.join "hbsc").join "config.toml"

theorem load_eq (files : Files) (path : Path) :
    load files path = if files.exists? (filePath files path) then read files (filePath files path)
      else .error (.configNotFound (filePath files path)) := rfl

theorem user_eq (files : Files) (configHome : Path) :
    user files configHome = if files.exists? (userPath configHome)
      then (read files (userPath configHome)).map some else .ok none := rfl

theorem not_isSpoiled_of_load (h : load files path = .ok layer) : ¬IsSpoiled files (filePath files path) := by
  rw [load_eq] at h
  split at h
  · exact not_isSpoiled_of_read h
  · cases h

theorem not_isSpoiled_of_user {configHome : Path} {found : Option Layer} (h : user files configHome = .ok found)
    (hexists : files.exists? (userPath configHome) = true) : ¬IsSpoiled files (userPath configHome) := by
  rw [user_eq, if_pos hexists] at h
  obtain ⟨layer, hread⟩ := Action.exists_of_map_ok h
  exact not_isSpoiled_of_read hread

theorem filePath_of_isFile (h : files.isFile path = true) : filePath files path = path := by
  rw [filePath, if_neg]
  intro hdirectory
  obtain ⟨spot, s, hfind⟩ := Files.isDirectory_iff.mp hdirectory
  rw [Files.isFile, hfind] at h
  cases h

theorem not_isSpoiled_of_discover {directory : Path} {found : Option Layer}
    (h : discover files directory = .ok found) (hfile : files.isFile (directory.join configFile) = true) :
    ¬IsSpoiled files (directory.join configFile) := by
  unfold discover at h
  rw [if_pos hfile] at h
  obtain ⟨layer, hload⟩ := Action.exists_of_map_ok h
  have hgood := not_isSpoiled_of_load hload
  rwa [filePath_of_isFile hfile] at hgood

/-- The project's layer: the one that was asked for, or else the one in the working directory. -/
def project (files : Files) (explicit : Option Path) (directory : Path) : Except Failure (Option Layer) :=
  match explicit with
  | some path => some <$> load files path
  | none => discover files directory

theorem resolve_eq (files : Files) (configHome : Path) (explicit : Option Path) (directory : Path) :
    resolve files configHome explicit directory = (do
      let own ← user files configHome
      let shared ← project files explicit directory
      return match shared with
        | some shared => (own.getD empty).merge shared
        | none => own.getD empty) := by
  unfold resolve project
  refine congrArg _ (funext fun own => ?_)
  cases explicit with
  | none =>
    refine congrArg _ (funext fun shared => ?_)
    cases shared <;> rfl
  | some path => simp

end Layer

/-! ### Options -/

namespace Options

variable {load : Path → Except Failure Hook} {settings : CompileSettings}

/-- The charset that settings name, or the standard one. -/
def charsetOf (settings : CompileSettings) : Except Failure Charset :=
  match settings.charset with
  | some name => Charset.ofName name
  | none => .ok standard.charset

theorem charsetOf_eq_ok_iff {charset : Charset} : charsetOf settings = .ok charset ↔
    match settings.charset with
    | some name => Charset.ofName name = .ok charset
    | none => charset = .utf8 := by
  unfold charsetOf
  cases settings.charset with
  | none => simp [standard, eq_comm]
  | some name => exact Iff.rfl

/-- The hook of the script that settings name, if they do. -/
def hookOf (load : Path → Except Failure Hook) (settings : CompileSettings) : Except Failure (Option Hook) :=
  match settings.postParse with
  | some script => some <$> load script
  | none => .ok none

theorem hookOf_eq_error_iff : hookOf load settings = .error failure ↔
    ∃ script, settings.postParse = some script ∧ load script = .error failure := by
  unfold hookOf
  cases settings.postParse with
  | none => simp
  | some script => cases hload : load script <;> simp [hload, Functor.map, Except.map]

/-- The options of settings, charset and hook script apart. -/
def plain (settings : CompileSettings) : Options where
  amd := settings.amd.getD standard.amd
  commonjs := settings.commonjs
  handlebarPath := settings.handlebarPath.getD standard.handlebarPath
  known := settings.known.getD standard.known
  knownOnly := settings.knownOnly.getD standard.knownOnly
  registry := settings.registry.getD standard.registry
  simple := settings.simple.getD standard.simple
  root := settings.root
  asPartial := settings.asPartial.getD standard.asPartial
  extension := settings.extension.getD standard.extension
  charset := standard.charset
  postParse := none

theorem ofSettings_eq (load : Path → Except Failure Hook) (settings : CompileSettings) :
    ofSettings load settings = (do
      let charset ← charsetOf settings
      let postParse ← hookOf load settings
      return { plain settings with charset, postParse }) := by
  unfold ofSettings charsetOf hookOf
  cases settings.charset <;> cases settings.postParse <;> rfl

/-- Settings amount to options if their charset is known and their hook script can be loaded. -/
theorem ofSettings_ok (h : ofSettings load settings = .ok options) :
    charsetOf settings = .ok options.charset ∧ hookOf load settings = .ok options.postParse ∧
      options = { plain settings with charset := options.charset, postParse := options.postParse } := by
  rw [ofSettings_eq] at h
  obtain ⟨charset, hcharset, h⟩ := Action.bind_eq_ok_iff.mp h
  obtain ⟨hook, hhook, h⟩ := Action.bind_eq_ok_iff.mp h
  cases h
  exact ⟨hcharset, hhook, rfl⟩

end Options

end Precompiler
