import Precompiler.CommandLine.Compile
import Precompiler.Proofs.BatchRefinement

/-! Dry runs.

A dry run compiles its templates and writes nothing. So it only looks at the files, and what it
gives is a matter of the files alone (`dryResult`, `compileBatch_dry`). A batch that writes reads its
templates while the files change, and yet it gives the same, if no module takes the place of a
template to come (`dryResult_of_compiled`). The command shows modules once all of them are there, so
a dry run that fails shows none (`compile_dry_error`). Whatever is printed all the same is printed by
the hook (`dry_run`), which may print a line like that of a written module (`line_in_dry_run`). -/
namespace Precompiler

variable {engine : Engine} {options : Options} {batch : Batch} {files : Files} {world last : World}
  {compiled : List Compiled}

/-! ### What a dry run gives -/

/-- What a dry run of a batch gives. -/
def dryResult [Glob.Joining] (engine : Engine) (options : Options) (batch : Batch) (files : Files) :
    Except Failure (List Compiled) := do
  let setup ← Setup.of options files batch.sources
  let inputs ← ((collectInputs batch.sources setup.pattern batch.exclude).outcome ⟨files, []⟩).1
  inputs.mapM (previewOf engine options setup files)

theorem dryResult_of_collected [Glob.Joining] {setup : Setup} {inputs : Except Failure (List Path)}
    (hsetup : Setup.of options world.files batch.sources = .ok setup)
    (hinputs : ((collectInputs batch.sources setup.pattern batch.exclude).outcome world).1 = inputs) :
    dryResult engine options batch world.files =
      inputs >>= fun inputs => inputs.mapM (previewOf engine options setup world.files) := by
  rw [dryResult, hsetup, ← hinputs, (collectInputs_looks _ _ _).result_eq world.files world.journal []]
  rfl

/-- A dry run changes no file, and only the hook prints. -/
theorem compileBatch_dry [Glob.Joining] (hdry : batch.dryRun = true) (world : World) :
    ∃ chunks : List (List String), (∀ lines ∈ chunks, PrintedBy options.postParse lines) ∧
      (compileBatch engine batch options).ComesTo world.files
        (dryResult engine options batch world.files) chunks.flatten := by
  rcases hsetup : Setup.of options world.files batch.sources with failure | setup
  · rw [dryResult, hsetup]
    exact ⟨[], by simp, compileBatch_unset hsetup⟩
  rcases hinputs : ((collectInputs batch.sources setup.pattern batch.exclude).outcome world).1 with
    failure | inputs <;> rw [dryResult_of_collected hsetup hinputs]
  · exact ⟨[], by simp, compileBatch_uncollected hsetup hinputs⟩
  have hone : ∀ input, ∃ lines, PrintedBy options.postParse lines ∧
      (batch.compileOne engine options world.files setup input).ComesTo world.files
        (previewOf engine options setup world.files input) lines := fun input => by
    rw [Batch.compileOne, Batch.outputOf_eq_none hdry]
    exact compileTemplate_previewed world.files input
  obtain ⟨chunks, hchunks, htemplates⟩ := Action.ComesTo.mapM hone inputs
  exact ⟨chunks, hchunks, (compileBatch_becomes hsetup hinputs).comesTo htemplates⟩

/-- Nothing that a dry run gives has been put anywhere. -/
theorem output_of_dryResult [Glob.Joining] (h : dryResult engine options batch files = .ok compiled) :
    ∀ c ∈ compiled, c.output = none := by
  intro c hc
  obtain ⟨setup, _, h⟩ := Action.bind_eq_ok_iff.mp h
  obtain ⟨inputs, _, h⟩ := Action.bind_eq_ok_iff.mp h
  obtain ⟨input, _, hpreview⟩ := Action.exists_of_forall₂ (Action.mapM_eq_ok_iff.mp h) hc
  obtain ⟨text, _, hpreview⟩ := Action.bind_eq_ok_iff.mp hpreview
  cases hpreview
  rfl

/-- The batch as a dry run. -/
def Batch.dry (batch : Batch) : Batch := {batch with dryRun := true}

/-- A compiled template whose module has gone nowhere. -/
def Compiled.unwritten (compiled : Compiled) : Compiled := {compiled with output := none}

/-- A dry run gives what a batch gives that succeeds and whose modules take the place of no template
to come. -/
theorem dryResult_of_compiled [Glob.Joining] (hsound : world.files.Sound) (hlinkless : world.files.tree.Linkless)
    (hdry : batch.dryRun = false) (hapart : batch.IsApart options world)
    (hrun : (compileBatch engine batch options).outcome world = (.ok compiled, last)) :
    dryResult engine options batch world.files = .ok (compiled.map Compiled.unwritten) := by
  obtain ⟨setup, inputs, hsetup, hinputs, journal, hchain⟩ := compileBatch_ok hrun
  obtain ⟨rfl, puts, hway⟩ := Batch.run_of_chain hdry hchain
  have htexts := hway.moduleText_of_collected hinputs hsound hlinkless (hapart setup _ hsetup hinputs)
  rw [dryResult_of_collected hsetup hinputs]
  refine Action.mapM_eq_ok_iff.mpr (List.forall₂_map_left_iff.mpr (List.forall₂_map_right_iff.mpr
    (List.forall₂_same.mpr fun c hc => ?_)))
  rw [previewOf, htexts c hc, ← hway.name c hc]
  rfl

/-! ### The command -/

namespace CommandLine

variable {environment : Environment} {arguments : Arguments} {failure : Failure}

/-- A batch with the engine and the options that it is compiled with. -/
structure Order where
  engine : Engine
  batch : Batch
  options : Options

/-- What the command line asks for under settings and options. -/
def orderUnder [EngineMaker] (environment : Environment) (arguments : Arguments) (files : Files)
    (settings : Layer) (options : Options) : Order where
  engine := EngineMaker.engineOf environment.searchPath files settings.engine.nodeProgram
    settings.engine.engineModule
  batch := ⟨arguments.sources, settings.compile.dest, settings.compile.exclude, arguments.dryRun⟩
  options

/-- The path of the directory from which files are seen. -/
def directoryOf (files : Files) : Except Failure Path :=
  match files.here with
  | some here => .ok ("/" ++ "/".intercalate here)
  | none => .error (.io .findingDirectory)

theorem outcome_workingDirectory (world : World) :
    workingDirectory.outcome world = (directoryOf world.files, world) := by
  rw [workingDirectory, Action.outcome_bind_ok (Action.outcome_files world), directoryOf]
  cases world.files.here <;> rfl

variable [ScriptLanguage] [EngineMaker]

/-- What the command line asks for, with the settings that are found. -/
def order (environment : Environment) (arguments : Arguments) (files : Files) : Except Failure Order := do
  let directory ← directoryOf files
  let settings ← settingsOf environment files directory arguments
  let options ← Options.ofSettings (Hook.load files) settings.compile
  return orderUnder environment arguments files settings options

theorem order_dryRun {asked : Order} (h : order environment arguments files = .ok asked) :
    asked.batch.dryRun = arguments.dryRun := by
  obtain ⟨directory, _, h⟩ := Action.bind_eq_ok_iff.mp h
  obtain ⟨settings, _, h⟩ := Action.bind_eq_ok_iff.mp h
  obtain ⟨options, _, h⟩ := Action.bind_eq_ok_iff.mp h
  cases h
  rfl

variable [Glob.Joining]

/-- Compiles an order, and shows what there is to show. -/
def carryOut (order : Order) : Action Unit := do
  let compiled ← compileBatch order.engine order.batch order.options
  if order.batch.dryRun then Action.sayAll (compiled.map previewText)
  Action.tell (summary order.batch.dryRun compiled.length)

/-- The command makes out what is asked for, without any effect, and carries it out. -/
theorem outcome_compile (environment : Environment) (arguments : Arguments) (world : World) :
    (compile environment arguments).outcome world =
      (Action.ofExcept (order environment arguments world.files) >>= carryOut).outcome world := by
  rw [Action.outcome_bind, Action.outcome_ofExcept, compile, Action.outcome_bind, outcome_workingDirectory]
  rcases hdirectory : directoryOf world.files with failure | directory
  · have horder : order environment arguments world.files = .error failure := by
      simp only [order, hdirectory, bind, Except.bind]
    rw [horder]
  rcases hsettings : settingsOf environment world.files directory arguments with failure | settings
  · have horder : order environment arguments world.files = .error failure := by
      simp only [order, hdirectory, hsettings, bind, Except.bind]
    simp [Action.outcome_bind, hsettings, horder]
  rcases hoptions : Options.ofSettings (Hook.load world.files) settings.compile with failure | options
  · have horder : order environment arguments world.files = .error failure := by
      simp only [order, hdirectory, hsettings, hoptions, bind, Except.bind]
    simp [Action.outcome_bind, hsettings, hoptions, horder]
  · have horder : order environment arguments world.files =
        .ok (orderUnder environment arguments world.files settings options) := by
      simp only [order, hdirectory, hsettings, hoptions, bind, Except.bind]
      rfl
    simp [Action.outcome_bind, hsettings, hoptions, horder, carryOut, orderUnder]

theorem compile_becomes (environment : Environment) (arguments : Arguments) (files : Files) :
    (compile environment arguments).Becomes files []
      (Action.ofExcept (order environment arguments files) >>= carryOut) :=
  ⟨[], rfl, fun journal => by rw [List.append_nil, outcome_compile]⟩

/-- A dry run of the command that fails changes no file, and only the hook of what was asked for has
printed. -/
theorem compile_dry_error {world last : World} (hdry : arguments.dryRun = true)
    (h : (compile environment arguments).outcome world = (.error failure, last)) :
    last.files = world.files ∧ ∃ chunks : List (List String),
      (∀ lines ∈ chunks, ∃ asked, order environment arguments world.files = .ok asked ∧
        PrintedBy asked.options.postParse lines) ∧
      printed last.journal = printed world.journal ++ chunks.flatten := by
  obtain ⟨events, hevents, hgoes⟩ := compile_becomes environment arguments world.files
  rw [hgoes world.journal] at h
  rcases horder : order environment arguments world.files with other | asked
  · rw [horder] at h
    cases h
    exact ⟨rfl, [], by simp, by simp [hevents]⟩
  rw [horder, Action.outcome_bind_ok (Action.outcome_ofExcept _ _)] at h
  have hasked : asked.batch.dryRun = true := (order_dryRun horder).trans hdry
  obtain ⟨chunks, hchunks, more, hmore, hrun⟩ : ∃ chunks : List (List String), _ ∧
      (compileBatch asked.engine asked.batch asked.options).ComesTo _ _ chunks.flatten :=
    compileBatch_dry hasked world
  rw [carryOut, Action.outcome_bind, hrun] at h
  rcases hresult : dryResult asked.engine asked.options asked.batch world.files with other | compiled <;>
    rw [hresult] at h
  · cases h
    refine ⟨rfl, chunks, fun lines hlines => ⟨asked, rfl, hchunks lines hlines⟩, ?_⟩
    simp [hevents, hmore]
  · -- Once all templates are compiled nothing can fail.
    simp only [hasked, if_true] at h
    cases h

end CommandLine

/-! ### Whole runs -/

/-- **A dry run has no effect and is faithful.** It changes no file, puts nothing anywhere, and only the
hook prints. If the batch succeeds when it writes, and its modules take the place of no template to
come, the dry run gives the same templates, names and texts. A dry run of the command that fails
shows no template: there, too, only the hook has printed. It may be any hook and any engine. -/
theorem dry_run [Glob.Joining] [ScriptLanguage] [EngineMaker] {result : Except Failure (List Compiled)}
    (hrun : (compileBatch engine batch.dry options).outcome world = (result, last)) :
    last.files = world.files ∧
      (∃ chunks : List (List String), (∀ lines ∈ chunks, PrintedBy options.postParse lines) ∧
        printed last.journal = printed world.journal ++ chunks.flatten) ∧
      ((∀ own ∈ options.postParse, ∀ ast, (own.apply ast).1 = []) →
        printed last.journal = printed world.journal) ∧
      (∀ compiled, result = .ok compiled → ∀ c ∈ compiled, c.output = none) ∧
      (world.files.Sound → world.files.tree.Linkless → batch.dryRun = false →
        batch.IsApart options world → ∀ compiled left,
          (compileBatch engine batch options).outcome world = (.ok compiled, left) →
            result = .ok (compiled.map Compiled.unwritten)) ∧
      ∀ environment arguments failure left, arguments.dryRun = true →
        (CommandLine.compile environment arguments).outcome world = (.error failure, left) →
          left.files = world.files ∧ ∃ chunks : List (List String),
            (∀ lines ∈ chunks, ∃ asked, CommandLine.order environment arguments world.files = .ok asked ∧
              PrintedBy asked.options.postParse lines) ∧
            printed left.journal = printed world.journal ++ chunks.flatten := by
  obtain ⟨chunks, hchunks, events, hevents, hgoes⟩ : ∃ chunks : List (List String), _ ∧
      (compileBatch engine batch.dry options).ComesTo _ _ chunks.flatten := compileBatch_dry rfl world
  cases (hgoes world.journal).symm.trans hrun
  have hprinted : printed (world.journal ++ events) = printed world.journal ++ chunks.flatten := by
    rw [printed_append, hevents]
  refine ⟨rfl, ⟨chunks, hchunks, hprinted⟩, fun hsilent => ?_, fun compiled => output_of_dryResult,
    fun hsound hlinkless hdry hapart compiled left => dryResult_of_compiled hsound hlinkless hdry hapart,
    fun environment arguments failure left => CommandLine.compile_dry_error⟩
  have hnone : chunks.flatten = [] :=
    List.flatten_eq_nil_iff.mpr fun lines hlines => (hchunks lines hlines).eq_nil hsilent
  rw [hprinted, hnone, List.append_nil]

/-- The command line of a dry run of one template. -/
def Sample.dryArguments : CommandLine.Arguments :=
  {CommandLine.Arguments.empty with sources := ["a.hbs"], dryRun := true}

/-- Two templates that share an output file are compiled in a dry run, and it is not written. The
command fails without a word where there is no engine. -/
theorem dry_run_bundle :
    (∃ last, (compileBatch Sample.engine Sample.bundle.dry Sample.options).outcome Sample.bundleWorld =
        (.ok [⟨"a.hbs", none, "a", "A\n"⟩, ⟨"c.hbs", none, "c", "C\n"⟩], last) ∧
      last.files = Sample.bundleWorld.files ∧ printed last.journal = []) ∧
    ∃ left, (CommandLine.compile ⟨"/config", []⟩ Sample.dryArguments).outcome Sample.bundleWorld =
        (.error (.missingTool "node" "handlebars"), left) ∧
      left.files = Sample.bundleWorld.files ∧ printed left.journal = [] := by
  obtain ⟨written, hwritten⟩ := Action.exists_outcome Sample.compiled_bundle
  have hcommand : ((CommandLine.compile ⟨"/config", []⟩ Sample.dryArguments).outcome
      Sample.bundleWorld).1 = .error (.missingTool "node" "handlebars") := by decide +kernel
  have hhook : ((CommandLine.order ⟨"/config", []⟩ Sample.dryArguments Sample.bundleWorld.files).map
      fun asked => asked.options.postParse.isNone) = .ok true := by decide +kernel
  obtain ⟨left, hleft⟩ := Action.exists_outcome hcommand
  generalize hdry : (compileBatch Sample.engine Sample.bundle.dry Sample.options).outcome
    Sample.bundleWorld = dry
  obtain ⟨result, last⟩ := dry
  obtain ⟨hfiles, _, hsilent, _, hfaithful, hfails⟩ := dry_run hdry
  obtain rfl := hfaithful (by decide +kernel) (FileTree.linkless_of_entries (by decide +kernel)) rfl
    Sample.bundle_isApart _ _ hwritten
  obtain ⟨hkept, chunks, hchunks, hshown⟩ := hfails _ _ _ _ rfl hleft
  refine ⟨⟨last, rfl, hfiles, hsilent fun own hown => by cases hown⟩, left, hleft, hkept, ?_⟩
  have hnone : chunks.flatten = [] := List.flatten_eq_nil_iff.mpr fun lines hlines => by
    obtain ⟨asked, hasked, hown⟩ := hchunks lines hlines
    rw [hasked] at hhook
    refine hown.eq_nil fun own hmem => ?_
    rw [Option.isNone_iff_eq_none.mp (Except.ok.inj hhook)] at hmem
    cases hmem
  rw [hshown, hnone]
  rfl

/-- A template beside a hook script that prints a line and gives the tree back. -/
def Sample.printerWorld : World :=
  Sample.world [(["a.hbs"], "A"), (["h.rhai"], "print(\"a.hbs > a.js\"); ast")]

/-- Options with the hook of this script. -/
def Sample.printerOptions : Options :=
  {Sample.options with postParse := (Hook.load Sample.printerWorld.files "h.rhai").toOption}

/-- A line on standard output does not tell of a written module: in this dry run the hook has printed
it, and no module is there. -/
theorem line_in_dry_run :
    let run := (compileBatch Sample.engine ⟨["a.hbs"], none, [], true⟩ Sample.printerOptions).outcome
      Sample.printerWorld
    run.1 = .ok [⟨"a.hbs", none, "a", "A\n"⟩] ∧ run.2.files.exists? "a.js" = false ∧
      printed run.2.journal = [writtenLine "a.hbs" "a.js"] := by
  decide +kernel

end Precompiler
