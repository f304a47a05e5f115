import Mathlib.Data.List.TakeWhile
import Precompiler.Proofs.Precedence

/-! Where the hook script comes from.

A hook script is named on the command line, in the project's config file or in the user's. What the command
line names is meant as it stands. What a config file names is anchored at the directory of that file, once,
when the file is read (`Layer.scripted_of_read`); laying layers over one another and loading the script leave
the path alone (`hook_anchored_once`). -/
namespace Precompiler

variable {files : Files} {file : Path}

/-! ### The directory of a config file -/

namespace Path

theorem parent?_eq_none_iff {path : Path} :
    path.parent? = none ↔ ∃ rest, path.segments = "" :: rest ∧ ∀ s ∈ rest, isIdle s = true := by
  obtain ⟨first, rest, hsegments⟩ := List.exists_cons_of_ne_nil (segments_ne_nil path)
  have hkept : rest.reverse.dropWhile isIdle = [] ↔ ∀ s ∈ rest, isIdle s = true := by
    simp [List.dropWhile_eq_nil_iff]
  rw [parent?, Option.map_eq_none_iff, split?, hsegments, dropIdleEnd, List.reverse_cons, List.reverse_reverse]
  constructor
  · intro h
    rcases hend : rest.reverse.dropWhile isIdle with _ | ⟨last, before⟩
    · rw [hend] at h
      by_cases hfirst : first = ""
      · exact ⟨rest, by rw [hfirst], hkept.mp hend⟩
      · simp [hfirst] at h
    · rw [hend] at h
      cases before <;> simp at h
  · rintro ⟨_, heq, hidle⟩
    obtain ⟨rfl, rfl⟩ := List.cons.inj heq
    rw [hkept.mpr hidle]
    rfl

end Path

/-- Only idle segments lead nowhere. -/
theorem FileTree.follow_idles {tree : FileTree} {segments : List String} (h : ∀ s ∈ segments, Path.isIdle s = true)
    (followLast : Bool) (n : Nat) (spot : Location) :
    tree.follow followLast n spot segments = tree.follow followLast n spot [] := by
  induction segments with
  | nil => rfl
  | cons first rest ih =>
    obtain ⟨hfirst, hrest⟩ := List.forall_mem_cons.mp h
    rw [follow_idle hfirst, ih hrest]

/-- What can be read stands in a directory: only the root has none above it. -/
theorem Files.exists_parent_of_read {content : ByteArray} (h : files.read? file = some content) :
    ∃ directory, file.parent? = some directory := by
  rw [← Option.ne_none_iff_exists']
  intro hnone
  obtain ⟨rest, hsegments, hidle⟩ := Path.parent?_eq_none_iff.mp hnone
  obtain ⟨spot, x, hfind⟩ := read?_eq_some_iff.mp h
  obtain ⟨hne, _, begin, hbegin, hleads⟩ := resolve_eq_ok_iff.mp (find?_eq_some_iff.mp hfind)
  have hfollow := FileTree.follow_eq_ok_iff.mpr hleads
  have hrest : rest ≠ [] := by
    rintro rfl
    exact hne (by rw [← Path.ofSegments_segments file, hsegments]; rfl)
  have habsolute : file.isAbsolute = true := Path.isAbsolute_iff.mpr ⟨rest, hrest, hsegments⟩
  rw [start, if_pos habsolute, Option.some.injEq] at hbegin
  subst hbegin
  rw [hsegments, FileTree.follow_idles (List.forall_mem_cons.mpr ⟨rfl, hidle⟩), FileTree.follow_nil] at hfollow
  cases hfollow

/-! ### Scripts in config files -/

namespace Layer

open Toml (Fields)

variable {fields : Fields} {layer : Layer} {settings : CompileSettings} {script path : Path}

/-- The script that a config file names, as it is written there. -/
def scriptIn (files : Files) (file : Path) : Option Path := do
  let text ← (files.read? file).bind String.fromUTF8?
  let fields ← Toml.parse? text
  textOf (← (tableIn fields compileSection).lookup "post_parse")

/-- Where a script is that a config file names: right there, if it is absolute or the file's directory has no
name, and otherwise in the file's directory. -/
inductive Anchors (file script : Path) : Path → Prop where
  | absolute : script.isAbsolute = true → Anchors file script script
  | alone : file.parent? = some "" → Anchors file script script
  | beside {directory : Path} : script.isAbsolute = false → file.parent? = some directory → directory ≠ "" →
      Anchors file script (directory.join script)

/-- The script that comes of one that is asked for and one that a config file names: what is asked for stays as
it is, and otherwise what the config file names is anchored. -/
inductive Scripted (asked : Option Path) (named : Option (Path × Path)) : Option Path → Prop where
  | asked {path : Path} : asked = some path → Scripted asked named (some path)
  | named {file script path : Path} : asked = none → named = some (file, script) → Anchors file script path →
      Scripted asked named (some path)
  | none : asked = none → named = none → Scripted asked named none

/-- What is laid over a script goes before it. -/
theorem Scripted.laid {own shared : Option (Path × Path)} {base top : Option Path} (hbase : Scripted .none own base)
    (htop : Scripted .none shared top) (asked : Option Path) :
    Scripted asked (shared.or own) (asked.or (top.or base)) := by
  cases asked with
  | some path => exact .asked rfl
  | none =>
    rw [Option.none_or]
    cases htop with
    | asked hasked => cases hasked
    | named _ hnamed hanchors =>
      rw [Option.some_or]
      exact .named rfl (by rw [hnamed, Option.some_or]) hanchors
    | none _ hnamed =>
      rw [Option.none_or, hnamed, Option.none_or]
      exact hbase

theorem anchor_postParse (layer : Layer) {directory : Path} (hparent : file.parent? = some directory)
    (h : layer.compile.postParse = some script) :
    ∃ path, (layer.anchor directory).compile.postParse = some path ∧ Anchors file script path := by
  simp only [anchor, h, Option.map_some, Option.some.injEq, exists_eq_left', Bool.or_eq_true, beq_iff_eq]
  split
  next hstays =>
    rcases hstays with habsolute | rfl
    · exact .absolute habsolute
    · exact .alone hparent
  next hmoves =>
    obtain ⟨hrelative, hnamed⟩ := not_or.mp hmoves
    exact .beside (Bool.eq_false_iff.mpr hrelative) hparent hnamed

/-! ### The files that take part -/

/-- The user's config file, if it is there. -/
def userFile (files : Files) (configHome : Path) : Option Path :=
  if files.exists? (userPath configHome) then some (userPath configHome) else none

/-- The project's config file: the one that was asked for, by its own path or by that of its directory, or else
the one in the working directory, if it is there. -/
def projectFile (files : Files) (explicit : Option Path) (directory : Path) : Option Path :=
  match explicit with
  | some path => some (if files.isDirectory path then path.join configFile else path)
  | none => if files.isFile (directory.join configFile) then some (directory.join configFile) else none

/-- The script that a config file names, if it is there and names one, and the file. -/
def namedIn (files : Files) (file : Option Path) : Option (Path × Path) :=
  file.bind fun file => (scriptIn files file).map (file, ·)

/-- A layer that is read has the script that its file names, anchored at the directory of the file. -/
theorem scripted_of_read (h : read files file = .ok layer) :
    Scripted none (namedIn files (some file)) layer.compile.postParse := by
  obtain ⟨text, own, htext, hdocument, _, hanchored⟩ := read_ok h
  obtain ⟨content, hcontent, _⟩ := Option.bind_eq_some_iff.mp htext
  obtain ⟨directory, hparent⟩ := Files.exists_parent_of_read hcontent
  simp only [ofDocument?, Option.bind_eq_bind, Option.bind_eq_some_iff, Option.pure_def,
    Option.some.injEq] at hdocument
  obtain ⟨fields, hfields, compile, hcompile, engine, _, rfl⟩ := hdocument
  have hsettings : compileOf (tableIn fields compileSection) = some (compile.getD .empty) :=
    table_eq (rfl : compileOf [] = some .empty) hcompile
  have hown : scriptIn files file = (compile.getD .empty).postParse := by
    rw [(compileOf_eq hsettings).2.2.2.2, scriptIn, htext]
    simp [hfields]
  simp only [hparent] at hanchored
  rw [namedIn, Option.bind_some, hown, hanchored]
  rcases hscript : (compile.getD .empty).postParse with _ | script
  · simp only [anchor, hscript, Option.map_none]
    exact .none rfl rfl
  · obtain ⟨path, hpath, hanchors⟩ := anchor_postParse ⟨compile.getD .empty, engine.getD .empty⟩ hparent hscript
    exact hpath ▸ .named rfl rfl hanchors

theorem scripted_of_load (h : load files path = .ok layer) :
    Scripted none (namedIn files (some (filePath files path))) layer.compile.postParse := by
  rw [load_eq] at h
  split at h
  · exact scripted_of_read h
  · cases h

theorem scripted_of_user {configHome : Path} {found : Option Layer} (h : user files configHome = .ok found) :
    Scripted none (namedIn files (userFile files configHome)) (found.bind (·.compile.postParse)) := by
  rw [user_eq] at h
  rw [userFile]
  split at h
  next hthere =>
    rw [if_pos hthere]
    rcases hread : read files (userPath configHome) with failure | layer <;> rw [hread] at h <;> cases h
    exact scripted_of_read hread
  next hnot =>
    rw [if_neg hnot]
    cases h
    exact .none rfl rfl

theorem scripted_of_project {explicit : Option Path} {directory : Path} {found : Option Layer}
    (h : project files explicit directory = .ok found) :
    Scripted none (namedIn files (projectFile files explicit directory)) (found.bind (·.compile.postParse)) := by
  cases explicit with
  | some path =>
    obtain ⟨layer, hload⟩ := Action.exists_of_map_ok h
    have hfound : found = some layer := by
      rw [project, hload] at h
      exact (Except.ok.inj h).symm
    exact hfound ▸ scripted_of_load hload
  | none =>
    rw [project, discover] at h
    rw [projectFile]
    split at h
    next hfile =>
      rw [if_pos hfile]
      rcases hload : load files (directory.join configFile) with failure | layer <;> rw [hload] at h <;> cases h
      have hscript := scripted_of_load hload
      rwa [filePath_of_isFile hfile] at hscript
    next hnot =>
      rw [if_neg hnot]
      cases h
      exact .none rfl rfl

end Layer

/-! ### The script of a run -/

namespace CommandLine

variable {environment : Environment} {arguments : Arguments} {directory : Path} {settings : Layer}

/-- The script of the settings is that of the topmost layer that names one. -/
theorem postParse_of_settingsOf (h : settingsOf environment files directory arguments = .ok settings) :
    ∃ user project, Layer.user files environment.configHome = .ok user ∧
      Layer.project files arguments.config directory = .ok project ∧
      settings.compile.postParse = prevailing arguments.postParse project user (·.compile.postParse) := by
  obtain ⟨user, project, huser, hproject, rfl⟩ := settingsOf_ok h
  have hsetting : Layer.IsSetting (·.compile.postParse) := ⟨rfl, fun _ _ => rfl⟩
  exact ⟨user, project, huser, hproject, hsetting.prevails user project arguments.layer⟩

/-- What is settled are the settings of a run, and the options that they amount to. -/
theorem settled_ok [ScriptLanguage] {options : Options}
    (h : settled environment arguments directory files = .ok (settings, options)) :
    settingsOf environment files directory arguments = .ok settings ∧
      Options.ofSettings (Hook.load files) settings.compile = .ok options := by
  obtain ⟨own, hsettings, h⟩ := Action.bind_eq_ok_iff.mp h
  obtain ⟨found, hoptions, h⟩ := Action.bind_eq_ok_iff.mp h
  cases h
  exact ⟨hsettings, hoptions⟩

end CommandLine

section Loading

variable [ScriptLanguage]

/-- A hook that is loaded is that of the script in a file. -/
theorem Hook.load_ok {path : Path} {hook : Hook} (h : load files path = .ok hook) :
    ∃ text script, (files.read? path).bind String.fromUTF8? = some text ∧
      ScriptLanguage.compile text = .ok script ∧ hook = ofScript path script := by
  unfold load at h
  rcases htext : (files.read? path).bind String.fromUTF8? with _ | text
  · simp only [htext] at h
    cases h
  rcases hscript : ScriptLanguage.compile text with message | script
  · simp only [htext, pure_bind, hscript] at h
    cases h
  · simp only [htext, pure_bind, hscript] at h
    exact ⟨text, script, rfl, hscript, (Except.ok.inj h).symm⟩

/-- What is loaded for a script, if there is one: the hook of just this script. -/
inductive Loads (files : Files) : Option Path → Option Hook → Prop where
  | some {path : Path} {text : String} {script : HookScript} :
      (files.read? path).bind String.fromUTF8? = some text → ScriptLanguage.compile text = .ok script →
      Loads files (some path) (some (Hook.ofScript path script))
  | none : Loads files none none

theorem Options.hookOf_load {settings : CompileSettings} {hook : Option Hook}
    (h : hookOf (Hook.load files) settings = .ok hook) : Loads files settings.postParse hook := by
  unfold hookOf at h
  rcases hpath : settings.postParse with _ | path <;> rw [hpath] at h
  · exact Except.ok.inj h ▸ .none
  · obtain ⟨own, hload⟩ := Action.exists_of_map_ok h
    obtain ⟨text, script, htext, hscript, rfl⟩ := Hook.load_ok hload
    have hhook : some <$> Hook.load files path = .ok hook := h
    rw [hload] at hhook
    exact Except.ok.inj hhook ▸ .some htext hscript

/-- **A hook script is anchored once.** The script of a run is the one on the command line, exactly as it stands
there. Without one it is the script that the project's config file names, and if that names none, the one that
the user's names; either is anchored at the directory of its own file. The options of the run have the hook of
just this script, in whatever language it is written. -/
theorem hook_anchored_once {environment : CommandLine.Environment} {arguments : CommandLine.Arguments}
    {directory : Path} {settings : Layer}
    (h : CommandLine.settingsOf environment files directory arguments = .ok settings) :
    Layer.Scripted arguments.postParse
        ((Layer.namedIn files (Layer.projectFile files arguments.config directory)).or
          (Layer.namedIn files (Layer.userFile files environment.configHome)))
        settings.compile.postParse ∧
      ∀ options, Options.ofSettings (Hook.load files) settings.compile = .ok options →
        Loads files settings.compile.postParse options.postParse := by
  refine ⟨?_, fun options hoptions => Options.hookOf_load (Options.ofSettings_ok hoptions).2.1⟩
  obtain ⟨user, project, huser, hproject, hpath⟩ := CommandLine.postParse_of_settingsOf h
  rw [hpath]
  exact (Layer.scripted_of_user huser).laid (Layer.scripted_of_project hproject) arguments.postParse

end Loading

/-- The config file of a user and one in a directory, each with a hook script of its own. -/
def Sample.twoHooks : Files :=
  (worldWith [["user"], ["user", "hbsc"], ["conf"], ["conf", "hooks"]]
    [(["user", "hbsc", "config.toml"], "[compile]\npost_parse = \"hooks/u.rhai\"\n"),
      (["conf", "hbsc.toml"], "[compile]\npost_parse = \"hooks/p.rhai\"\n"),
      (["conf", "hooks", "p.rhai"], "ast")]).files

/-- The command line of a run with the config file of a directory. -/
def Sample.inConf : CommandLine.Arguments := {configured with config := some "conf"}

/-- The script that the config file in a directory names is loaded from this directory. -/
theorem hook_anchored_once_conf : ∃ settings options script,
    CommandLine.settingsOf Sample.environment Sample.twoHooks "/" Sample.inConf = .ok settings ∧
      settings.compile.postParse = some "conf/hooks/p.rhai" ∧
      Options.ofSettings (Hook.load Sample.twoHooks) settings.compile = .ok options ∧
      ScriptLanguage.compile "ast" = .ok script ∧
      options.postParse = some (Hook.ofScript "conf/hooks/p.rhai" script) := by
  have hsettled : (CommandLine.settled Sample.environment Sample.inConf "/" Sample.twoHooks).map (·.2.amd) =
      .ok false := by decide +kernel
  obtain ⟨⟨settings, options⟩, hsettled⟩ := Action.exists_of_map_ok hsettled
  obtain ⟨hsettings, hoptions⟩ := CommandLine.settled_ok hsettled
  obtain ⟨hpath, hhook⟩ := hook_anchored_once hsettings
  have hnamed : (Layer.namedIn Sample.twoHooks (Layer.projectFile Sample.twoHooks (some "conf") "/")).or
      (Layer.namedIn Sample.twoHooks (Layer.userFile Sample.twoHooks Sample.environment.configHome)) =
        some ("conf/hbsc.toml", "hooks/p.rhai") := by decide +kernel
  have hanchored : settings.compile.postParse = some "conf/hooks/p.rhai" := by
    rw [show Sample.inConf.config = some "conf" from rfl, hnamed] at hpath
    generalize settings.compile.postParse = path at hpath ⊢
    cases hpath with
    | asked hasked => cases hasked
    | none _ hnone => cases hnone
    | named _ hnamed hanchors =>
      obtain ⟨rfl, rfl⟩ := Prod.mk.inj (Option.some.inj hnamed)
      rcases hanchors with habsolute | halone | ⟨_, hparent, _⟩
      · exact absurd habsolute (by decide +kernel)
      · exact absurd halone (by decide +kernel)
      · cases hparent.symm.trans (by decide +kernel : Path.parent? "conf/hbsc.toml" = some "conf")
        rfl
  have hloads := hhook options hoptions
  rw [hanchored] at hloads
  generalize hpostParse : options.postParse = hook at hloads
  obtain ⟨htext, hscript⟩ := hloads
  have hread : (Sample.twoHooks.read? "conf/hooks/p.rhai").bind String.fromUTF8? = some "ast" := by decide +kernel
  cases htext.symm.trans hread
  exact ⟨settings, options, _, hsettings, hanchored, hoptions, hscript, hpostParse⟩

end Precompiler
