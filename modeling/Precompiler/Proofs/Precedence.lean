import Mathlib.Data.List.Infix
import Precompiler.Proofs.ConfigFiles
import Precompiler.Proofs.DryRuns
import Precompiler.Proofs.Files.Visits

/-! Which setting counts.

What the command runs with is settled by its layers: the command line on top, then the project's config
file, then the user's, and at the bottom what holds for everything that is not set. A setting is decided by
the topmost layer that says anything about it (`Layer.IsSetting.prevails`), and so is everything that an
order holds (`Prevails`); only the exclude patterns of all layers count together. A layer says what its
document says, an empty text or list included (`Layer.Says`). Once a config file is asked for, nothing hangs
on any other file but the user's and the hook script (`settled_eq`), so one that they do not come by may
be anything. -/
namespace Precompiler

/-! ### What a document says -/

namespace Layer

open Toml (Fields)

variable {fields : Fields} {layer : Layer} {settings : CompileSettings}

/-- The settings for compiling that are texts, but for the hook script, under their names in a document. -/
def textSettings : List (String × (CompileSettings → Option String)) :=
  [("dest", (·.dest)), ("commonjs", (·.commonjs)), ("handlebar_path", (·.handlebarPath)),
    ("namespace", (·.registry)), ("root", (·.root)), ("extension", (·.extension)), ("charset", (·.charset))]

/-- The settings that are switches. -/
def switchSettings : List (String × (CompileSettings → Option Bool)) :=
  [("amd", (·.amd)), ("known_only", (·.knownOnly)), ("simple", (·.simple)), ("partial", (·.asPartial))]

/-- The settings for the engine. -/
def engineSettings : List (String × (EngineSettings → Option String)) :=
  [("node", (·.node)), ("handlebars_module", (·.handlebarsModule))]

/-- The fields of a section of a document; one that is not there has none. -/
def tableIn (fields : Fields) (part : Section) : Fields := ((fields.lookup part.name).bind part.tableOf).getD []

/-- A layer says what its document says: what is written is set, whatever it is. -/
structure Says (layer : Layer) (fields : Fields) : Prop where
  texts : ∀ entry ∈ textSettings,
    entry.2 layer.compile = ((tableIn fields compileSection).lookup entry.1).bind textOf
  switches : ∀ entry ∈ switchSettings,
    entry.2 layer.compile = ((tableIn fields compileSection).lookup entry.1).bind switchOf
  known : layer.compile.known = ((tableIn fields compileSection).lookup "known").bind textsOf
  exclude : layer.compile.exclude = (((tableIn fields compileSection).lookup "exclude").bind textsOf).getD []
  engine : ∀ entry ∈ engineSettings,
    entry.2 layer.engine = ((tableIn fields engineSection).lookup entry.1).bind textOf

theorem setting_eq {α : Type} {name : String} {type : Toml → Option α} {value : Option α}
    (h : setting fields name type = some value) : value = (fields.lookup name).bind type := by
  unfold setting at h
  rcases hvalue : fields.lookup name with _ | written <;> rw [hvalue] at h
  · exact (Option.some.inj h).symm
  · obtain ⟨own, hown, rfl⟩ := Option.map_eq_some_iff.mp h
    exact hown.symm

theorem compileOf_eq (h : compileOf fields = some settings) :
    (∀ entry ∈ textSettings, entry.2 settings = (fields.lookup entry.1).bind textOf) ∧
      (∀ entry ∈ switchSettings, entry.2 settings = (fields.lookup entry.1).bind switchOf) ∧
      settings.known = (fields.lookup "known").bind textsOf ∧
      settings.exclude = ((fields.lookup "exclude").bind textsOf).getD [] ∧
      settings.postParse = (fields.lookup "post_parse").bind textOf := by
  obtain ⟨dest, hdest, h⟩ := Option.bind_eq_some_iff.mp h
  obtain ⟨amd, hamd, h⟩ := Option.bind_eq_some_iff.mp h
  obtain ⟨commonjs, hcommonjs, h⟩ := Option.bind_eq_some_iff.mp h
  obtain ⟨handlebarPath, hhandlebarPath, h⟩ := Option.bind_eq_some_iff.mp h
  obtain ⟨known, hknown, h⟩ := Option.bind_eq_some_iff.mp h
  obtain ⟨knownOnly, hknownOnly, h⟩ := Option.bind_eq_some_iff.mp h
  obtain ⟨registry, hregistry, h⟩ := Option.bind_eq_some_iff.mp h
  obtain ⟨simple, hsimple, h⟩ := Option.bind_eq_some_iff.mp h
  obtain ⟨root, hroot, h⟩ := Option.bind_eq_some_iff.mp h
  obtain ⟨asPartial, hasPartial, h⟩ := Option.bind_eq_some_iff.mp h
  obtain ⟨extension, hextension, h⟩ := Option.bind_eq_some_iff.mp h
  obtain ⟨charset, hcharset, h⟩ := Option.bind_eq_some_iff.mp h
  obtain ⟨postParse, hpostParse, h⟩ := Option.bind_eq_some_iff.mp h
  obtain ⟨exclude, hexclude, h⟩ := Option.bind_eq_some_iff.mp h
  cases h
  refine ⟨?_, ?_, setting_eq hknown, congrArg (Option.getD · []) (setting_eq hexclude), setting_eq hpostParse⟩
  · simp [textSettings, setting_eq hdest, setting_eq hcommonjs, setting_eq hhandlebarPath, setting_eq hregistry,
      setting_eq hroot, setting_eq hextension, setting_eq hcharset]
  · simp [switchSettings, setting_eq hamd, setting_eq hknownOnly, setting_eq hsimple, setting_eq hasPartial]

theorem engineOf_eq {engine : EngineSettings} (h : engineOf fields = some engine) :
    ∀ entry ∈ engineSettings, entry.2 engine = (fields.lookup entry.1).bind textOf := by
  simp only [engineOf, Option.bind_eq_bind, Option.bind_eq_some_iff, Option.pure_def, Option.some.injEq] at h
  obtain ⟨node, hnode, engineModule, hmodule, rfl⟩ := h
  simp [engineSettings, setting_eq hnode, setting_eq hmodule]

/-- What a document says in one of its sections; where the section is not there nothing is set. -/
theorem table_eq {α : Type} {part : Section} {type : Fields → Option α} {unset : α} {value : Option α}
    (hunset : type [] = some unset)
    (h : setting fields part.name (fun v => (part.tableOf v).bind type) = some value) :
    type (tableIn fields part) = some (value.getD unset) := by
  unfold setting at h
  unfold tableIn
  rcases hvalue : fields.lookup part.name with _ | written <;> rw [hvalue] at h
  · obtain rfl := Option.some.inj h
    exact hunset
  · obtain ⟨own, hown, rfl⟩ := Option.map_eq_some_iff.mp h
    obtain ⟨table, htable, hown⟩ := Option.bind_eq_some_iff.mp hown
    rw [Option.bind_some, htable]
    exact hown

/-- Anchoring touches no setting but the hook script. -/
theorem Says.anchor (h : layer.Says fields) (directory : Path) : (layer.anchor directory).Says fields := by
  have htexts : ∀ entry ∈ textSettings, entry.2 (layer.anchor directory).compile = entry.2 layer.compile := by
    simp [textSettings, Layer.anchor]
  have hswitches : ∀ entry ∈ switchSettings,
      entry.2 (layer.anchor directory).compile = entry.2 layer.compile := by
    simp [switchSettings, Layer.anchor]
  exact ⟨fun entry hentry => (htexts entry hentry).trans (h.texts entry hentry),
    fun entry hentry => (hswitches entry hentry).trans (h.switches entry hentry), h.known, h.exclude, h.engine⟩

/-- A layer that is read says what its document says. -/
theorem says_of_read {path : Path} {files : Files} (h : read files path = .ok layer) :
    ∃ text fields, (files.read? path).bind String.fromUTF8? = some text ∧ Toml.parse? text = some fields ∧
      layer.Says fields := by
  obtain ⟨text, own, htext, hdocument, _, hanchored⟩ := read_ok h
  simp only [ofDocument?, Option.bind_eq_bind, Option.bind_eq_some_iff, Option.pure_def,
    Option.some.injEq] at hdocument
  obtain ⟨fields, hfields, compile, hcompile, engine, hengine, rfl⟩ := hdocument
  obtain ⟨htexts, hswitches, hknown, hexclude, _⟩ :=
    compileOf_eq (table_eq (rfl : compileOf [] = some .empty) hcompile)
  have hsays : Says ⟨compile.getD .empty, engine.getD .empty⟩ fields :=
    ⟨htexts, hswitches, hknown, hexclude, engineOf_eq (table_eq (rfl : engineOf [] = some .empty) hengine)⟩
  refine ⟨text, fields, htext, hfields, ?_⟩
  rw [hanchored]
  cases path.parent? with
  | none => exact hsays
  | some directory => exact hsays.anchor directory

-- A section that is an array has its settings without their names.
example : (ofDocument? "engine = [\"n\", \"m\", 3]").map (·.engine.handlebarsModule) = some (some "m") := by
  decide +kernel

end Layer

/-! ### Layers over one another -/

/-- What the topmost layer says that says anything: the command line, the project's, the user's. -/
def prevailing {α : Type} (top : Option α) (project user : Option Layer) (setting : Layer → Option α) :
    Option α :=
  top.or ((project.bind setting).or (user.bind setting))

namespace Layer

/-- The layer that the layers of the config files amount to. -/
def laid (user project : Option Layer) : Layer :=
  match project with
  | some project => (user.getD empty).merge project
  | none => user.getD empty

/-- A part of a layer that is a setting: it may be left open, and what is laid over it goes before it. -/
structure IsSetting {α : Type} (setting : Layer → Option α) : Prop where
  unset : setting empty = none
  merge : ∀ base top, setting (base.merge top) = (setting top).or (setting base)

/-- The topmost layer that says something decides a setting. -/
theorem IsSetting.prevails {α : Type} {setting : Layer → Option α} (h : IsSetting setting)
    (user project : Option Layer) (top : Layer) :
    setting ((laid user project).merge top) = prevailing (setting top) project user setting := by
  have hbase : setting (user.getD empty) = user.bind setting := by
    cases user with
    | none => exact h.unset
    | some layer => rfl
  rw [h.merge, prevailing]
  cases project with
  | none => rw [laid, hbase, Option.bind_none, Option.none_or]
  | some shared => rw [laid, h.merge, hbase, Option.bind_some]

/-- The exclude patterns of all layers count together. -/
theorem exclude_laid (user project : Option Layer) (top : Layer) :
    ((laid user project).merge top).compile.exclude = (user.map (·.compile.exclude)).getD [] ++
      (project.map (·.compile.exclude)).getD [] ++ top.compile.exclude := by
  cases user <;> cases project <;>
    simp [laid, merge, CompileSettings.merge, empty, CompileSettings.empty]

end Layer

namespace CommandLine

variable {environment : Environment} {arguments : Arguments} {files other : Files} {directory : Path}
  {settings : Layer} {options : Options}

/-- The settings of a run in a directory, and the options that they amount to. -/
def settled [ScriptLanguage] (environment : Environment) (arguments : Arguments) (directory : Path)
    (files : Files) : Except Failure (Layer × Options) := do
  let settings ← settingsOf environment files directory arguments
  let options ← Options.ofSettings (Hook.load files) settings.compile
  return (settings, options)

theorem settingsOf_ok (h : settingsOf environment files directory arguments = .ok settings) :
    ∃ user project, Layer.user files environment.configHome = .ok user ∧
      Layer.project files arguments.config directory = .ok project ∧
      settings = (Layer.laid user project).merge arguments.layer := by
  obtain ⟨base, hbase, heq⟩ := Action.bind_eq_ok_iff.mp h
  rw [Layer.resolve_eq] at hbase
  obtain ⟨user, huser, hbase⟩ := Action.bind_eq_ok_iff.mp hbase
  obtain ⟨project, hproject, hbase⟩ := Action.bind_eq_ok_iff.mp hbase
  cases heq
  cases hbase
  exact ⟨user, project, huser, hproject, rfl⟩

/-- An order holds what prevails of each setting, or what holds for everything that is not set. -/
structure Prevails [EngineMaker] (environment : Environment) (arguments : Arguments) (files : Files)
    (project user : Option Layer) (asked : Order) : Prop where
  dest : asked.batch.dest = prevailing arguments.dest project user (·.compile.dest)
  amd : asked.options.amd =
    (prevailing (if arguments.amd then some true else none) project user (·.compile.amd)).getD false
  commonjs : asked.options.commonjs = prevailing arguments.commonjs project user (·.compile.commonjs)
  handlebarPath : asked.options.handlebarPath =
    (prevailing arguments.handlebarPath project user (·.compile.handlebarPath)).getD ""
  known : asked.options.known = (prevailing (if arguments.known.isEmpty then none else some arguments.known)
    project user (·.compile.known)).getD []
  knownOnly : asked.options.knownOnly =
    (prevailing (if arguments.knownOnly then some true else none) project user (·.compile.knownOnly)).getD false
  registry : asked.options.registry =
    (prevailing arguments.registry project user (·.compile.registry)).getD "Handlebars.templates"
  simple : asked.options.simple =
    (prevailing (if arguments.simple then some true else none) project user (·.compile.simple)).getD false
  root : asked.options.root = prevailing arguments.root project user (·.compile.root)
  asPartial : asked.options.asPartial =
    (prevailing (if arguments.asPartial then some true else none) project user (·.compile.asPartial)).getD false
  extension : asked.options.extension =
    (prevailing arguments.extension project user (·.compile.extension)).getD "handlebars|hbs"
  charset : match prevailing arguments.charset project user (·.compile.charset) with
    | some name => Charset.ofName name = .ok asked.options.charset
    | none => asked.options.charset = .utf8
  engine : asked.engine = EngineMaker.engineOf environment.searchPath files
    ((prevailing arguments.node project user (·.engine.node)).getD "node")
    ((prevailing none project user (·.engine.handlebarsModule)).getD "handlebars")
  exclude : asked.batch.exclude = (user.map (·.compile.exclude)).getD [] ++
    (project.map (·.compile.exclude)).getD [] ++ arguments.exclude

/-- What is settled prevails. -/
theorem prevails_of_settled [ScriptLanguage] [EngineMaker]
    (h : settled environment arguments directory files = .ok (settings, options)) :
    ∃ user project, Layer.user files environment.configHome = .ok user ∧
      Layer.project files arguments.config directory = .ok project ∧
      Prevails environment arguments files project user (orderUnder environment arguments files settings options) := by
  obtain ⟨own, hsettings, h⟩ := Action.bind_eq_ok_iff.mp h
  obtain ⟨found, hoptions, h⟩ := Action.bind_eq_ok_iff.mp h
  cases h
  obtain ⟨user, project, huser, hproject, rfl⟩ := settingsOf_ok hsettings
  obtain ⟨hcharset, _, hplain⟩ := Options.ofSettings_ok hoptions
  have hset : ∀ {α : Type} (setting : Layer → Option α), Layer.IsSetting setting →
      setting ((Layer.laid user project).merge arguments.layer) =
        prevailing (setting arguments.layer) project user setting := fun _ h => h.prevails _ _ _
  have hname : match prevailing arguments.charset project user (·.compile.charset) with
      | some name => Charset.ofName name = .ok options.charset
      | none => options.charset = .utf8 := by
    rw [Options.charsetOf_eq_ok_iff, hset (·.compile.charset) ⟨rfl, fun _ _ => rfl⟩] at hcharset
    exact hcharset
  refine ⟨user, project, huser, hproject, ?_⟩
  exact {
    dest := hset (·.compile.dest) ⟨rfl, fun _ _ => rfl⟩
    amd := (congrArg Options.amd hplain).trans
      (congrArg (Option.getD · false) (hset (·.compile.amd) ⟨rfl, fun _ _ => rfl⟩))
    commonjs := (congrArg Options.commonjs hplain).trans (hset (·.compile.commonjs) ⟨rfl, fun _ _ => rfl⟩)
    handlebarPath := (congrArg Options.handlebarPath hplain).trans
      (congrArg (Option.getD · "") (hset (·.compile.handlebarPath) ⟨rfl, fun _ _ => rfl⟩))
    known := (congrArg Options.known hplain).trans
      (congrArg (Option.getD · []) (hset (·.compile.known) ⟨rfl, fun _ _ => rfl⟩))
    knownOnly := (congrArg Options.knownOnly hplain).trans
      (congrArg (Option.getD · false) (hset (·.compile.knownOnly) ⟨rfl, fun _ _ => rfl⟩))
    registry := (congrArg Options.registry hplain).trans
      (congrArg (Option.getD · "Handlebars.templates") (hset (·.compile.registry) ⟨rfl, fun _ _ => rfl⟩))
    simple := (congrArg Options.simple hplain).trans
      (congrArg (Option.getD · false) (hset (·.compile.simple) ⟨rfl, fun _ _ => rfl⟩))
    root := (congrArg Options.root hplain).trans (hset (·.compile.root) ⟨rfl, fun _ _ => rfl⟩)
    asPartial := (congrArg Options.asPartial hplain).trans
      (congrArg (Option.getD · false) (hset (·.compile.asPartial) ⟨rfl, fun _ _ => rfl⟩))
    extension := (congrArg Options.extension hplain).trans
      (congrArg (Option.getD · "handlebars|hbs") (hset (·.compile.extension) ⟨rfl, fun _ _ => rfl⟩))
    charset := hname
    engine := congrArg₂ (EngineMaker.engineOf environment.searchPath files)
      (congrArg (Option.getD · "node") (hset (·.engine.node) ⟨rfl, fun _ _ => rfl⟩))
      (congrArg (Option.getD · "handlebars") (hset (·.engine.handlebarsModule) ⟨rfl, fun _ _ => rfl⟩))
    exclude := Layer.exclude_laid user project arguments.layer }

/-- What an order is carried out with is settled beforehand. -/
theorem order_eq [ScriptLanguage] [EngineMaker] (environment : Environment) (arguments : Arguments)
    (files : Files) :
    order environment arguments files = (do
      let directory ← directoryOf files
      let (settings, options) ← settled environment arguments directory files
      return orderUnder environment arguments files settings options) := by
  unfold order settled
  simp only [bind_assoc, pure_bind]

/-! ### What the settings come from -/

/-- No file that the settings come from is at a location: not the user's config file, not the one that was
asked for, and not the hook script. -/
structure Ignores (environment : Environment) (arguments : Arguments) (directory : Path) (files : Files)
    (goal : Location) : Prop where
  user : ¬files.Visits (Layer.userPath environment.configHome) goal
  config : ∀ path ∈ arguments.config, ¬files.Visits path goal ∧ ¬files.Visits (Layer.filePath files path) goal
  hook : ∀ settings, settingsOf environment files directory arguments = .ok settings →
    ∀ script ∈ settings.compile.postParse, ¬files.Visits script goal

/-- Where nothing stands, nothing comes from. -/
theorem ignores_of_absent {goal : Location} (h : files.tree.get? goal = none) :
    Ignores environment arguments directory files goal where
  user := Files.not_visits_of_absent h _
  config path _ := ⟨Files.not_visits_of_absent h path, Files.not_visits_of_absent h _⟩
  hook _ _ script _ := Files.not_visits_of_absent h script

/-- Where a config file is asked for, files that differ in nothing that the settings come from give the same
settings. -/
theorem settled_eq [ScriptLanguage] {goal : Location} {path : Path}
    (hconfig : arguments.config = some path) (hsame : files.SameOff other goal)
    (h : Ignores environment arguments directory files goal)
    (h' : Ignores environment arguments directory other goal) :
    settled environment arguments directory other = settled environment arguments directory files := by
  have huser := hsame.find?_eq h.user h'.user
  have hpath := hsame.find?_eq (h.config path hconfig).1 (h'.config path hconfig).1
  have hfilePath : Layer.filePath other path = Layer.filePath files path := by
    rw [Layer.filePath, Layer.filePath, Files.isDirectory, Files.isDirectory, hpath]
  have hfile : other.find? (Layer.filePath files path) = files.find? (Layer.filePath files path) :=
    hsame.find?_eq (h.config path hconfig).2 (hfilePath ▸ (h'.config path hconfig).2)
  have hread : ∀ {path}, other.find? path = files.find? path → Layer.read other path = Layer.read files path :=
    fun heq => by rw [Layer.read, Layer.read, Files.read?, Files.read?, heq]
  have hsettings : settingsOf environment other directory arguments =
      settingsOf environment files directory arguments := by
    rw [settingsOf, settingsOf, Layer.resolve_eq, Layer.resolve_eq, hconfig, Layer.project, Layer.project,
      Layer.load_eq, Layer.load_eq, Layer.user_eq, Layer.user_eq, Files.exists?, Files.exists?, Files.exists?,
      Files.exists?, hfilePath, hfile, huser, hread hfile, hread huser]
  rw [settled, settled, hsettings]
  rcases hfound : settingsOf environment files directory arguments with failure | settings
  · rfl
  have hoptions : Options.ofSettings (Hook.load other) settings.compile =
      Options.ofSettings (Hook.load files) settings.compile := by
    rw [Options.ofSettings_eq, Options.ofSettings_eq, Options.hookOf, Options.hookOf]
    rcases hscript : settings.compile.postParse with _ | script
    · rfl
    · have hhook := hsame.find?_eq (h.hook settings hfound script hscript)
        (h'.hook settings (hsettings.trans hfound) script hscript)
      have hload : Hook.load other script = Hook.load files script := by
        rw [Hook.load, Hook.load, Files.read?, Files.read?, hhook]
      simp only [hload]
  simp only [bind, Except.bind, hoptions]

end CommandLine

/-- **The topmost layer counts.** Whatever the command runs with is what prevails among the command line, the
project's config file and the user's, and a layer sets what is written in its document, be it empty. Where
a config file is asked for it is the project's, and the settings, or why there are none, are the same in any
two file systems that differ in one location only, if neither the user's config file nor the one that was asked
for nor the hook script leads to it. -/
theorem topmost_layer_counts [Glob.Joining] [ScriptLanguage] [EngineMaker]
    (environment : CommandLine.Environment) (arguments : CommandLine.Arguments) :
    (∀ files directory settings options,
      CommandLine.settled environment arguments directory files = .ok (settings, options) →
      ∃ user project, Layer.user files environment.configHome = .ok user ∧
        Layer.project files arguments.config directory = .ok project ∧
        CommandLine.Prevails environment arguments files project user
          (CommandLine.orderUnder environment arguments files settings options)) ∧
    (∀ world directory settings options, CommandLine.directoryOf world.files = .ok directory →
      CommandLine.settled environment arguments directory world.files = .ok (settings, options) →
      (CommandLine.compile environment arguments).outcome world =
        (CommandLine.carryOut
          (CommandLine.orderUnder environment arguments world.files settings options)).outcome world) ∧
    (∀ files path layer, Layer.read files path = .ok layer →
      ∃ text fields, (files.read? path).bind String.fromUTF8? = some text ∧ Toml.parse? text = some fields ∧
        layer.Says fields) ∧
    ∀ (files other : Files) (goal : Location) (directory path : Path), arguments.config = some path →
      files.SameOff other goal → CommandLine.Ignores environment arguments directory files goal →
      CommandLine.Ignores environment arguments directory other goal →
      CommandLine.settled environment arguments directory other =
        CommandLine.settled environment arguments directory files := by
  refine ⟨fun files directory settings options => CommandLine.prevails_of_settled, ?_,
    fun files path layer => Layer.says_of_read,
    fun files other goal directory path => CommandLine.settled_eq⟩
  intro world directory settings options hdirectory hsettled
  have horder : CommandLine.order environment arguments world.files =
      .ok (CommandLine.orderUnder environment arguments world.files settings options) := by
    rw [CommandLine.order_eq, hdirectory]
    simp only [bind, Except.bind, hsettled]
    rfl
  rw [CommandLine.outcome_compile, horder, Action.outcome_bind_ok (Action.outcome_ofExcept _ _)]

namespace Sample

/-- The config file of a user, which sets a CommonJS module, and one of a project, which sets an empty
one. -/
def layered : Files :=
  (worldWith [["user"], ["user", "hbsc"]] [(["user", "hbsc", "config.toml"], "[compile]\ncommonjs = \"x\"\n"),
    (["p.toml"], "[compile]\ncommonjs = \"\"\n")]).files

/-- Files with a config file in the working directory. -/
def discovered (files : Files) (text : String) : Files :=
  { files with tree := files.tree.put [Layer.configFile] (.file text.toUTF8 false) }

/-- What is around a run with this user. -/
def environment : CommandLine.Environment := ⟨"/user", []⟩

/-- The command line of a run with the config file of this project. -/
def configured : CommandLine.Arguments :=
  {CommandLine.Arguments.empty with sources := ["a.hbs"], config := some "p.toml"}

/-- Seen from the root, a path whose names lead nowhere near a location does not visit it. -/
theorem not_visits {files : Files} {goal : Location} {path : Path} (hlinkless : files.tree.Linkless)
    (hhere : files.here = some []) (h : ∀ front ∈ path.segments.inits, FileTree.descend [] front ≠ goal) :
    ¬files.Visits path goal :=
  Files.not_visits_of_linkless hlinkless (by rw [Files.start, hhere, ite_self]) fun front hfront =>
    h front ((List.mem_inits _ _).mpr hfront)

/-- The files of these layers, with a config file in the working directory that no layer comes from. -/
def shadowed : Files := discovered layered "[compile]\namd = true\n"

theorem ignores_shadowed : CommandLine.Ignores environment configured "/" shadowed [Layer.configFile] := by
  have hlinkless : shadowed.tree.Linkless := FileTree.linkless_of_entries (by decide +kernel)
  have hpath : Layer.filePath shadowed "p.toml" = "p.toml" := by decide +kernel
  have hscript : (CommandLine.settingsOf environment shadowed "/" configured).map (·.compile.postParse) =
      .ok none := by decide +kernel
  refine ⟨not_visits hlinkless rfl (by decide +kernel), fun path hconfig => ?_,
    fun settings hsettings script hhook => ?_⟩
  · obtain rfl := Option.some.inj hconfig
    rw [hpath, and_self]
    exact not_visits hlinkless rfl (by decide +kernel)
  · rw [hsettings] at hscript
    cases (Except.ok.inj hscript).symm.trans hhook

end Sample

/-- An empty module in the project's config file hides the user's, and a config file in the working directory
changes nothing. -/
theorem topmost_layer_counts_layered :
    (∃ user project, Layer.user Sample.layered Sample.environment.configHome = .ok user ∧
      Layer.project Sample.layered Sample.configured.config "/" = .ok project ∧
      prevailing none project user (·.compile.commonjs) = some "") ∧
    (∃ settings options,
      CommandLine.settled Sample.environment Sample.configured "/" Sample.layered = .ok (settings, options) ∧
      (CommandLine.compile Sample.environment Sample.configured).outcome ⟨Sample.layered, []⟩ =
        (CommandLine.carryOut (CommandLine.orderUnder Sample.environment Sample.configured Sample.layered
          settings options)).outcome ⟨Sample.layered, []⟩) ∧
    (∃ layer fields, Layer.read Sample.layered "p.toml" = .ok layer ∧
      ((Layer.tableIn fields Layer.compileSection).lookup "commonjs").bind Layer.textOf = some "" ∧
      layer.Says fields) ∧
    CommandLine.settled Sample.environment Sample.configured "/" Sample.shadowed =
      CommandLine.settled Sample.environment Sample.configured "/" Sample.layered := by
  obtain ⟨hprevails, hruns, hsays, hsame⟩ := topmost_layer_counts Sample.environment Sample.configured
  have hmodule : (CommandLine.settled Sample.environment Sample.configured "/" Sample.layered).map
      (·.2.commonjs) = .ok (some "") := by decide +kernel
  obtain ⟨⟨settings, options⟩, hsettled⟩ := Action.exists_of_map_ok hmodule
  have hlayer : (Layer.read Sample.layered "p.toml").map (·.compile.commonjs) = .ok (some "") := by decide +kernel
  obtain ⟨layer, hread⟩ := Action.exists_of_map_ok hlayer
  refine ⟨?_, ⟨settings, options, hsettled, hruns _ "/" _ _ rfl hsettled⟩, ?_, ?_⟩
  · obtain ⟨user, project, huser, hproject, hasked⟩ := hprevails _ _ _ _ hsettled
    rw [hsettled] at hmodule
    exact ⟨user, project, huser, hproject, hasked.commonjs.symm.trans (Except.ok.inj hmodule)⟩
  · obtain ⟨_, fields, _, _, hfields⟩ := hsays _ _ _ hread
    rw [hread] at hlayer
    have htext := hfields.texts ("commonjs", (·.commonjs)) (by simp [Layer.textSettings])
    exact ⟨layer, fields, hread, htext.symm.trans (Except.ok.inj hlayer), hfields⟩
  · exact hsame _ _ [Layer.configFile] _ "p.toml" rfl (Files.sameOff_put _ (by decide) _)
      (CommandLine.ignores_of_absent (by decide +kernel)) Sample.ignores_shadowed

namespace Sample

/-- A user's config file that is a link to the one in the working directory, and a project's that says
nothing. -/
def linked : Files :=
  ⟨⟨[([".config"], .directory false), ([".config", "hbsc"], .directory false),
      ([".config", "hbsc", "config.toml"], .link "../../hbsc.toml"), (["p.toml"], .file "".toUTF8 false)]⟩, some []⟩

/-- The command line of a run whose hook script has the name of a config file. -/
def hooked : CommandLine.Arguments := {configured with postParse := some Layer.configFile}

end Sample

/-- A config file in the working directory counts even where another one is asked for, if the user's is a link
to it, and so it does if it is named as the hook script. -/
theorem linked_config_counts :
    (Sample.linked.SameOff (Sample.discovered Sample.linked "[compile]\nnamespace = \"N\"\n") [Layer.configFile] ∧
      (CommandLine.settled ⟨"/.config", []⟩ Sample.configured "/" Sample.linked).map (·.2.registry) =
        .ok "Handlebars.templates" ∧
      (CommandLine.settled ⟨"/.config", []⟩ Sample.configured "/"
        (Sample.discovered Sample.linked "[compile]\nnamespace = \"N\"\n")).map (·.2.registry) = .ok "N") ∧
    Sample.layered.SameOff (Sample.discovered Sample.layered "ast") [Layer.configFile] ∧
      (CommandLine.settled Sample.environment Sample.hooked "/" Sample.layered).map (·.2.registry) =
        .error (.io (.readingHook Layer.configFile)) ∧
      (CommandLine.settled Sample.environment Sample.hooked "/" (Sample.discovered Sample.layered "ast")).map
        (·.2.registry) = .ok "Handlebars.templates" :=
  ⟨⟨Files.sameOff_put _ (by decide) _, by decide +kernel, by decide +kernel⟩,
    Files.sameOff_put _ (by decide) _, by decide +kernel, by decide +kernel⟩

end Precompiler
