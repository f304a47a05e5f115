import Precompiler.Proofs.Inputs
import Precompiler.Proofs.Runs

/-! Batches.

A batch is set up, its templates are collected, and they are compiled one after another. Up to
the first template nothing happens (`compileBatch_unset`, `compileBatch_uncollected`); from
there on a batch is its templates and nothing else (`compileBatch_becomes`). So what it leaves is
what a run of its templates leaves, up to the first that fails (`compileBatch_leaves`), and the
templates of a run are compiled by a batch that collects them (`Run.chain`). -/
namespace Precompiler

/-! ### Before the first template -/

namespace Batch

/-- Where the module of a template goes. -/
def outputOf (batch : Batch) (files : Files) (setup : Setup) (input : Path) : Option Path :=
  (batch.destination files).outputPath setup.pattern input

/-- Compiles one template of a batch. -/
def compileOne (batch : Batch) (engine : Engine) (options : Options) (files : Files) (setup : Setup)
    (input : Path) : Action Compiled :=
  compileTemplate engine options setup input (batch.outputOf files setup input)

theorem compileOne_blind (batch : Batch) (engine : Engine) (options : Options) (files : Files)
    (setup : Setup) (input : Path) : (batch.compileOne engine options files setup input).Blind :=
  compileTemplate_blind _ _ _ _ _

/-- A batch that is not a dry run has an output path for every template. -/
theorem outputOf_eq_some {batch : Batch} (hdry : batch.dryRun = false) (files : Files) (setup : Setup)
    (input : Path) : ∃ path, batch.outputOf files setup input = some path := by
  rw [outputOf, destination, hdry]
  simp only [Bool.false_eq_true, if_false]
  unfold Destination.resolve
  split
  · split <;> exact ⟨_, rfl⟩
  · split <;> exact ⟨_, rfl⟩
  · exact ⟨_, rfl⟩

/-- A dry run has no output path for any template. -/
theorem outputOf_eq_none {batch : Batch} (hdry : batch.dryRun = true) (files : Files) (setup : Setup)
    (input : Path) : batch.outputOf files setup input = none := by
  rw [outputOf, destination, hdry]
  rfl

end Batch

variable {engine : Engine} {options : Options} {batch : Batch} {setup : Setup} {files : Files}
  {failure : Failure}

theorem Setup.of_eq_ok_iff {sources : List Path} :
    Setup.of options files sources = .ok setup ↔
      options.extensionPattern = .ok setup.pattern ∧ setup.facts = InputFacts.ofSources files sources := by
  unfold Setup.of
  rcases options.extensionPattern with failure | pattern
  · simp [bind, Except.bind]
  · cases setup
    simp [bind, Except.bind, pure, Except.pure, eq_comm]

namespace Batch

/-- What a batch does before its first template: no engine takes part in it. -/
def prepare [Glob.Joining] (batch : Batch) (options : Options) : Action (Setup × List Path) := do
  if options.hasConflictingWrappers then
    Action.tell "warning: both --amd and --commonjs given; using AMD\n"
  let setup ← Action.ofExcept (Setup.of options (← Action.files) batch.sources)
  let inputs ← collectInputs batch.sources setup.pattern batch.exclude
  return (setup, inputs)

/-- What a batch does with its templates once they are collected. -/
def compileAll (batch : Batch) (engine : Engine) (options : Options) :
    Setup × List Path → Action (List Compiled) := fun (setup, inputs) => do
  let destination := batch.destination (← Action.files)
  Action.log ⟨.debug, "starting batch", [("sources", .number setup.facts.count),
    ("inputs", .number inputs.length), ("destination", .plain destination.shown)]⟩
  inputs.mapM fun input =>
    compileTemplate engine options setup input (destination.outputPath setup.pattern input)

/-- What preparing comes to: the setup, and the templates that are collected. -/
def prepared [Glob.Joining] (batch : Batch) (options : Options) (world : World) :
    Except Failure (Setup × List Path) := do
  let setup ← Setup.of options world.files batch.sources
  let inputs ← ((collectInputs batch.sources setup.pattern batch.exclude).outcome world).1
  return (setup, inputs)

/-- Preparing changes no file and prints nothing. -/
theorem prepare_comesTo [Glob.Joining] (batch : Batch) (options : Options) (world : World) :
    (batch.prepare options).ComesTo world.files (batch.prepared options world) [] := by
  have hfiles := Action.comesTo_files world.files
  have hall := (Action.comesTo_ofExcept world.files (Setup.of options world.files batch.sources)).silently
    fun setup => ((collectInputs_looks batch.sources setup.pattern batch.exclude).comesTo world).silently
      fun inputs => (Action.Looks.pure (setup, inputs)).comesTo world
  unfold prepare
  split
  · exact (Action.comesTo_tell _ _).bind (hfiles.bind hall)
  · exact hfiles.bind hall

theorem prepared_eq [Glob.Joining] {inputs : Except Failure (List Path)} {world : World}
    (hsetup : Setup.of options world.files batch.sources = .ok setup)
    (hinputs : ((collectInputs batch.sources setup.pattern batch.exclude).outcome world).1 = inputs) :
    batch.prepared options world = inputs.map (setup, ·) := by
  rw [prepared, hsetup, ← hinputs]
  rfl

end Batch

/-- A batch is prepared, and then its templates are compiled. -/
theorem compileBatch_eq [Glob.Joining] (engine : Engine) (batch : Batch) (options : Options) :
    compileBatch engine batch options = batch.prepare options >>= batch.compileAll engine options := by
  unfold compileBatch Batch.prepare Batch.compileAll
  split <;> simp only [bind_assoc, pure_bind]

/-- A batch that cannot be set up does nothing. -/
theorem compileBatch_unset [Glob.Joining] (hsetup : Setup.of options files batch.sources = .error failure) :
    (compileBatch engine batch options).ComesTo files (.error failure) [] := by
  have hprepared : batch.prepared options ⟨files, []⟩ = .error failure := by
    rw [Batch.prepared, hsetup]
    rfl
  rw [compileBatch_eq]
  exact ((batch.prepare_comesTo options ⟨files, []⟩).of_result hprepared).bind_error

/-- A batch whose templates cannot be collected does nothing. -/
theorem compileBatch_uncollected [Glob.Joining] {world : World}
    (hsetup : Setup.of options world.files batch.sources = .ok setup)
    (hinputs : ((collectInputs batch.sources setup.pattern batch.exclude).outcome world).1 =
      .error failure) :
    (compileBatch engine batch options).ComesTo world.files (.error failure) [] := by
  rw [compileBatch_eq]
  exact ((batch.prepare_comesTo options world).of_result (Batch.prepared_eq hsetup hinputs)).bind_error

/-- Once its templates are collected a batch compiles them one after another. -/
theorem compileBatch_becomes [Glob.Joining] {world : World} {inputs : List Path}
    (hsetup : Setup.of options world.files batch.sources = .ok setup)
    (hinputs : ((collectInputs batch.sources setup.pattern batch.exclude).outcome world).1 = .ok inputs) :
    (compileBatch engine batch options).Becomes world.files []
      (inputs.mapM (batch.compileOne engine options world.files setup)) := by
  rw [compileBatch_eq]
  exact ((batch.prepare_comesTo options world).of_result (Batch.prepared_eq hsetup hinputs)).becomes
    ((Action.comesTo_files _).becomes ((Action.comesTo_log _ _).becomes (.refl _ _)))

/-- A batch comes to what its templates come to, and it leaves the files that they leave. -/
theorem compileBatch_collected [Glob.Joining] {world : World} {inputs : List Path}
    (hsetup : Setup.of options world.files batch.sources = .ok setup)
    (hinputs : ((collectInputs batch.sources setup.pattern batch.exclude).outcome world).1 = .ok inputs) :
    ∃ last, (compileBatch engine batch options).outcome world =
        (((inputs.mapM (batch.compileOne engine options world.files setup)).outcome world).1, last) ∧
      last.files = ((inputs.mapM (batch.compileOne engine options world.files setup)).outcome world).2.files := by
  obtain ⟨events, _, hgoes⟩ : (compileBatch engine batch options).Becomes world.files [] _ :=
    compileBatch_becomes hsetup hinputs
  obtain ⟨more, hmore⟩ := (Action.Blind.mapM (Batch.compileOne_blind batch engine options world.files setup)
    inputs).outcome_eq (rfl : _ = (_, _)) (world.journal ++ events)
  exact ⟨_, (hgoes world.journal).trans hmore, rfl⟩

/-- A batch that succeeds has been set up, and its templates have been collected. -/
theorem compileBatch_ok [Glob.Joining] {world last : World} {compiled : List Compiled}
    (hrun : (compileBatch engine batch options).outcome world = (.ok compiled, last)) :
    ∃ setup inputs, Setup.of options world.files batch.sources = .ok setup ∧
      ((collectInputs batch.sources setup.pattern batch.exclude).outcome world).1 = .ok inputs ∧
      ∃ journal, Action.Chain (batch.compileOne engine options world.files setup)
        ⟨world.files, journal⟩ inputs compiled last := by
  rcases hsetup : Setup.of options world.files batch.sources with failure | setup
  · obtain ⟨_, _, hfail⟩ : (compileBatch engine batch options).ComesTo world.files _ _ :=
      compileBatch_unset hsetup
    simp [hfail world.journal] at hrun
  rcases hinputs : ((collectInputs batch.sources setup.pattern batch.exclude).outcome world).1 with
    failure | inputs
  · obtain ⟨_, _, hfail⟩ : (compileBatch engine batch options).ComesTo world.files _ _ :=
      compileBatch_uncollected hsetup hinputs
    simp [hfail world.journal] at hrun
  obtain ⟨events, _, hgoes⟩ : (compileBatch engine batch options).Becomes world.files _ _ :=
    compileBatch_becomes hsetup hinputs
  rw [hgoes world.journal] at hrun
  exact ⟨setup, inputs, rfl, hinputs, _, Action.outcome_mapM_ok_iff.mp hrun⟩

/-! ### Runs -/

variable {output : Path → Option Path} {before after : Files} {compiled : List Compiled}
  {puts : List (Location × ByteArray)} {inputs : List Path} {world last : World}

/-- Templates that are compiled in a chain make a run. -/
theorem Batch.run_of_chain (hdry : batch.dryRun = false)
    (h : Action.Chain (batch.compileOne engine options files setup) world inputs compiled last) :
    compiled.map (·.input) = inputs ∧
      ∃ puts, Run engine options setup (batch.outputOf files setup) world.files compiled puts last.files := by
  induction h with
  | nil world => exact ⟨rfl, [], .nil _⟩
  | @cons world left last input first rest more hfirst _ ih =>
    obtain ⟨hrest, puts, hrun⟩ := ih
    obtain ⟨path, hpath⟩ := Batch.outputOf_eq_some hdry files setup input
    rw [Batch.compileOne, hpath] at hfirst
    obtain ⟨rfl, ⟨put, hcompiles⟩, _⟩ := compileTemplate_ok hfirst
    exact ⟨by simp [hrest], put :: puts, .cons hpath hcompiles hrun⟩

/-- What a run compiles of collected templates it compiles from the files as they were, if no module
takes the place of a template to come. -/
theorem Run.moduleText_of_collected [Glob.Joining] {sources : List Path} {exclude : List String}
    (hinputs : ((collectInputs sources setup.pattern exclude).outcome world).1 =
      .ok (compiled.map (·.input)))
    (h : Run engine options setup output world.files compiled puts after) (hsound : world.files.Sound)
    (hlinkless : world.files.tree.Linkless)
    (hapart : Apart world.files output (compiled.map (·.input))) :
    ∀ c ∈ compiled, Precompiler.moduleText engine options setup world.files c.input = .ok c.text := by
  refine h.moduleText (.refl world.files) hlinkless (fun c hc => ?_) hapart
  obtain ⟨directory, name, hreaches, _⟩ := collected_reaches hsound hinputs (List.mem_map_of_mem hc)
  exact ⟨directory, name, hreaches, lastPut_nil _⟩

/-- Along a run the templates can be compiled. -/
theorem Run.chain (h : Run engine options setup (batch.outputOf files setup) before compiled puts after)
    (journal : List Event) :
    ∃ more, Action.Chain (batch.compileOne engine options files setup) ⟨before, journal⟩
      (compiled.map (·.input)) compiled ⟨after, more⟩ := by
  induction h generalizing journal with
  | nil files => exact ⟨journal, .nil _⟩
  | @cons before middle after first rest path put puts hpath hcompiles _ ih =>
    obtain ⟨events, hfirst⟩ := hcompiles.outcome journal
    obtain ⟨more, hrest⟩ := ih events
    refine ⟨more, .cons ?_ hrest⟩
    rw [Batch.compileOne, hpath]
    exact hfirst

/-! ### What a batch leaves -/

/-- A batch leaves what a run of its templates up to the first that fails leaves, but for
directories. -/
theorem compileBatch_leaves [Glob.Joining] (hdry : batch.dryRun = false)
    (hsetup : Setup.of options world.files batch.sources = .ok setup)
    (hinputs : ((collectInputs batch.sources setup.pattern batch.exclude).outcome world).1 = .ok inputs) :
    let done := Action.completed (batch.compileOne engine options world.files setup) inputs world
    done.map (·.input) <+: inputs ∧ ∃ puts middle,
      Run engine options setup (batch.outputOf world.files setup) world.files done puts middle ∧
        Files.Changes [] middle ((compileBatch engine batch options).outcome world).2.files := by
  have hblind := batch.compileOne_blind engine options world.files setup
  obtain ⟨events, _, hgoes⟩ : (compileBatch engine batch options).Becomes world.files _ _ :=
    compileBatch_becomes hsetup hinputs
  intro done
  have hdone : done = Action.completed (batch.compileOne engine options world.files setup) inputs
      ⟨world.files, world.journal ++ events⟩ := Action.Blind.completed_eq hblind _ _ _ _
  rcases hrest : (inputs.mapM (batch.compileOne engine options world.files setup)).outcome
    ⟨world.files, world.journal ++ events⟩ with ⟨failure | compiled, last⟩
  · obtain ⟨before, input, rest, compiled, left, rfl, hchain, hfails⟩ :=
      Action.outcome_mapM_error_iff.mp hrest
    obtain ⟨hsame, puts, hway⟩ := Batch.run_of_chain hdry hchain
    obtain ⟨path, hpath⟩ := Batch.outputOf_eq_some hdry world.files setup input
    rw [hchain.completed_append, Action.completed_of_error hfails, List.append_nil] at hdone
    rw [hdone, hsame]
    rw [Batch.compileOne, hpath] at hfails
    refine ⟨List.prefix_append _ _, puts, left.files, hway, ?_⟩
    rw [hgoes world.journal, hrest]
    exact (compileTemplate_error hfails).1.changes
  · have hchain := Action.outcome_mapM_ok_iff.mp hrest
    obtain ⟨hsame, puts, hway⟩ := Batch.run_of_chain hdry hchain
    have hall := hchain.completed_append []
    rw [List.append_nil, Action.completed, List.append_nil] at hall
    rw [hdone, hall, hsame]
    refine ⟨List.prefix_refl _, puts, last.files, hway, ?_⟩
    rw [hgoes world.journal, hrest]
    exact .refl _

end Precompiler
