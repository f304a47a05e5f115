import Precompiler.Proofs.Collected
import Precompiler.Proofs.ConfigFiles
import Precompiler.Proofs.DryRuns

/-! Setting up.

A batch is prepared before its first template is compiled, and no engine takes part in that
(`compileBatch_eq`). Preparing looks at the extension list, then at the exclude patterns, then at the
sources one after another, and fails at the first that cannot be used (`Batch.prepared_eq_error_iff`,
`Batch.Stops`). So wherever the fault is (`Batch.IsFaulty`), all the batch does is fail. The command is
prepared in its turn: it makes out what is asked for, and nothing has happened if it cannot
(`CommandLine.order_fails`, `CommandLine.CannotStart`). Both come together in `faulty_fails`. -/
namespace Precompiler

variable {pattern : ExtensionPattern} {excludes : Excludes} {exclude : List String} {files : Files}
  {source : Path} {sources : List Path} {failure : Failure} {options : Options} {world : World}

/-! ### Extensions -/

/-- Setting up fails if the extension list has no entry. -/
theorem Setup.of_eq_error_iff : Setup.of options files sources = .error failure ↔
    IsBlank options.extension ∧ failure = .invalidExtension options.extension := by
  rw [Setup.of, Action.bind_eq_error_iff, Options.extensionPattern, ExtensionPattern.ofList_eq_error_iff]
  simp [pure, Except.pure]

/-! ### Sources -/

theorem templateOfStep_eq_error_iff {step : WalkStep} :
    ((templateOfStep pattern excludes source step).outcome world).1 = .error failure ↔
      (∃ path, step = .unlisted path) ∧ failure = .io (.walking source) := by
  cases step with
  | unlisted path => simp [templateOfStep, eq_comm]
  | visit names path entry =>
    have hok := (@templateOfStep_ok_iff pattern excludes source _ world _).mpr ⟨names, path, entry, rfl, rfl⟩
    simp [hok]

/-- A walk fails if it gets stuck anywhere. -/
theorem mapM_templateOfStep_eq_error_iff {steps : List WalkStep} :
    ((steps.mapM (templateOfStep pattern excludes source)).outcome world).1 = .error failure ↔
      (∃ path, .unlisted path ∈ steps) ∧ failure = .io (.walking source) := by
  rw [Action.Looks.mapM_result (templateOfStep_looks pattern excludes source)]
  constructor
  · intro hfails
    obtain ⟨done, step, rest, rfl, _, hfails⟩ := Action.mapM_eq_error_iff.mp hfails
    obtain ⟨⟨path, rfl⟩, rfl⟩ := templateOfStep_eq_error_iff.mp hfails
    exact ⟨⟨path, by simp⟩, rfl⟩
  · rintro ⟨⟨path, hstuck⟩, rfl⟩
    have hfails := (@templateOfStep_eq_error_iff pattern excludes source _ world _).mpr ⟨⟨path, rfl⟩, rfl⟩
    obtain ⟨other, hother⟩ := Action.exists_mapM_error_iff
      (f := fun step => ((templateOfStep pattern excludes source step).outcome world).1) |>.mpr
      ⟨_, hstuck, _, hfails⟩
    obtain ⟨_, step, _, _, _, hfails⟩ := Action.mapM_eq_error_iff.mp hother
    obtain ⟨_, rfl⟩ := templateOfStep_eq_error_iff.mp hfails
    exact hother

/-- A source fails if it is not there, or if its walk gets stuck. -/
theorem templatesOf_eq_error_iff :
    ((templatesOf pattern excludes source).outcome world).1 = .error failure ↔
      world.files.exists? source = false ∧ failure = .sourceNotFound source ∨
        ¬IsWalkable world.files source ∧ failure = .io (.walking source) := by
  rw [templatesOf, Action.outcome_bind_ok (Action.outcome_files world), Files.exists?, IsWalkable]
  rcases world.files.find? source with _ | ⟨spot, _ | _ | s⟩
  · simp [eq_comm]
  · simp
  · simp
  · simp only []
    rw [(Action.Looks.mapM (templateOfStep_looks pattern excludes source) _).bind_result fun _ => .pure _,
      Action.bind_eq_error_iff, mapM_templateOfStep_eq_error_iff]
    simp

/-- A source gives its templates if it is there and its walk gets stuck nowhere. -/
theorem exists_templatesOf_iff :
    (∃ block, ((templatesOf pattern excludes source).outcome world).1 = .ok block) ↔
      world.files.exists? source = true ∧ IsWalkable world.files source := by
  simp only [Action.exists_eq_ok_iff, ne_eq, templatesOf_eq_error_iff]
  constructor
  · intro h
    refine ⟨?_, ?_⟩
    · rw [← Bool.not_eq_false]
      exact fun hnone => h _ (.inl ⟨hnone, rfl⟩)
    · by_contra hstuck
      exact h _ (.inr ⟨hstuck, rfl⟩)
  · rintro ⟨hthere, hwalk⟩ failure (⟨hnone, _⟩ | ⟨hstuck, _⟩)
    · exact Bool.noConfusion (hthere.symm.trans hnone)
    · exact hstuck hwalk

/-- What collecting comes to, from what it comes to for each source. -/
theorem collectInputs_result [Glob.Joining] (sources : List Path) (pattern : ExtensionPattern)
    (exclude : List String) (world : World) : ((collectInputs sources pattern exclude).outcome world).1 =
      Excludes.ofList exclude >>= fun excludes =>
        (sources.mapM fun source => ((templatesOf pattern excludes source).outcome world).1) >>= fun blocks =>
          pure blocks.flatten := by
  have hlooks := fun excludes => Action.Looks.mapM (templatesOf_looks pattern excludes) sources
  rw [collectInputs, (Action.Looks.ofExcept _).bind_result fun excludes =>
    (hlooks excludes).bind fun _ => .pure _, Action.outcome_ofExcept]
  refine congrArg _ (funext fun excludes => ?_)
  rw [(hlooks excludes).bind_result fun _ => .pure _, Action.Looks.mapM_result (templatesOf_looks pattern excludes)]
  rfl

/-- Collecting fails with the patterns, or else at the first source that fails. -/
theorem collectInputs_eq_error_iff [Glob.Joining] :
    ((collectInputs sources pattern exclude).outcome world).1 = .error failure ↔
      Excludes.ofList exclude = .error failure ∨
        ((∀ text ∈ exclude, Glob.IsWellFormed text) ∧ Glob.AreJoinable exclude) ∧
        ∃ before source after, sources = before ++ source :: after ∧
          (∀ earlier ∈ before, world.files.exists? earlier = true ∧ IsWalkable world.files earlier) ∧
          (world.files.exists? source = false ∧ failure = .sourceNotFound source ∨
            ¬IsWalkable world.files source ∧ failure = .io (.walking source)) := by
  rw [collectInputs_result, Action.bind_eq_error_iff, ← Excludes.exists_ofList_iff, exists_and_right.symm]
  refine or_congr Iff.rfl (exists_congr fun excludes => and_congr_right fun _ => ?_)
  rw [Action.bind_eq_error_iff, Action.mapM_eq_error_iff]
  simp only [exists_templatesOf_iff, templatesOf_eq_error_iff, pure, Except.pure, reduceCtorEq, and_false,
    exists_false, or_false]

/-- Collecting gives something only if the patterns and the sources are good. -/
theorem good_of_collected [Glob.Joining] {inputs : List Path}
    (h : ((collectInputs sources pattern exclude).outcome world).1 = .ok inputs) :
    ((∀ text ∈ exclude, Glob.IsWellFormed text) ∧ Glob.AreJoinable exclude) ∧
      ∀ source ∈ sources, world.files.exists? source = true := by
  rw [collectInputs_result] at h
  obtain ⟨excludes, hexclude, h⟩ := Action.bind_eq_ok_iff.mp h
  obtain ⟨blocks, hblocks, _⟩ := Action.bind_eq_ok_iff.mp h
  refine ⟨Excludes.exists_ofList_iff.mp ⟨excludes, hexclude⟩, fun source hsource => ?_⟩
  obtain ⟨block, _, hblock⟩ := Action.exists_of_forall₂ (Action.mapM_eq_ok_iff.mp hblocks).flip hsource
  exact (exists_templatesOf_iff.mp ⟨block, hblock⟩).1

/-! ### Batches -/

namespace Batch

variable {batch : Batch}

/-- Something in a batch cannot be used: the extension list, a pattern, the patterns together, or a source. -/
inductive IsFaulty [Glob.Joining] (batch : Batch) (options : Options) (files : Files) : Prop where
  | extension : IsBlank options.extension → IsFaulty batch options files
  | pattern {text : String} : text ∈ batch.exclude → ¬Glob.IsWellFormed text → IsFaulty batch options files
  | patterns : ¬Glob.AreJoinable batch.exclude → IsFaulty batch options files
  | source {source : Path} : source ∈ batch.sources → files.exists? source = false →
      IsFaulty batch options files

/-- Why a batch stops before its first template: what comes first of the extension list, a pattern that
is not well-formed, patterns that cannot be put together, and the sources one after another. -/
inductive Stops [Glob.Joining] (batch : Batch) (options : Options) (files : Files) : Failure → Prop where
  | extension : IsBlank options.extension → Stops batch options files (.invalidExtension options.extension)
  | pattern {before after : List String} {text : String} : ¬IsBlank options.extension →
      batch.exclude = before ++ text :: after → (∀ earlier ∈ before, Glob.IsWellFormed earlier) →
      ¬Glob.IsWellFormed text → Stops batch options files (.globPattern text)
  | patterns : ¬IsBlank options.extension → (∀ text ∈ batch.exclude, Glob.IsWellFormed text) →
      ¬Glob.AreJoinable batch.exclude → Stops batch options files (.globPattern "<combined>")
  | source {before after : List Path} {source : Path} : ¬IsBlank options.extension →
      (∀ text ∈ batch.exclude, Glob.IsWellFormed text) → Glob.AreJoinable batch.exclude →
      batch.sources = before ++ source :: after →
      (∀ earlier ∈ before, files.exists? earlier = true ∧ IsWalkable files earlier) →
      files.exists? source = false → Stops batch options files (.sourceNotFound source)
  | walk {before after : List Path} {source : Path} : ¬IsBlank options.extension →
      (∀ text ∈ batch.exclude, Glob.IsWellFormed text) → Glob.AreJoinable batch.exclude →
      batch.sources = before ++ source :: after →
      (∀ earlier ∈ before, files.exists? earlier = true ∧ IsWalkable files earlier) →
      ¬IsWalkable files source → Stops batch options files (.io (.walking source))

theorem exists_setup_iff : (∃ setup, Setup.of options files sources = .ok setup) ↔ ¬IsBlank options.extension := by
  simp only [Action.exists_eq_ok_iff, ne_eq, Setup.of_eq_error_iff]
  exact ⟨fun h hblank => h _ ⟨hblank, rfl⟩, fun hsome _ ⟨hblank, _⟩ => hsome hblank⟩

/-- Preparing fails just if and as the batch stops. -/
theorem prepared_eq_error_iff [Glob.Joining] :
    batch.prepared options world = .error failure ↔ batch.Stops options world.files failure := by
  have hcollect : ∀ {setup}, (((collectInputs batch.sources setup.pattern batch.exclude).outcome world).1 >>=
      fun inputs => (pure (setup, inputs) : Except Failure (Setup × List Path))) = .error failure ↔
        ((collectInputs batch.sources setup.pattern batch.exclude).outcome world).1 = .error failure := by
    intro setup
    rw [Action.bind_eq_error_iff]
    simp [pure, Except.pure]
  have hsetup : ∀ {rest : Prop}, (∃ setup, Setup.of options world.files batch.sources = .ok setup ∧ rest) ↔
      ¬IsBlank options.extension ∧ rest := by
    intro rest
    rw [exists_and_right, exists_setup_iff]
  rw [prepared, Action.bind_eq_error_iff, Setup.of_eq_error_iff]
  simp only [hcollect, collectInputs_eq_error_iff, hsetup, Excludes.ofList_eq_error_iff]
  constructor
  · rintro (⟨hblank, rfl⟩ | ⟨hsome, (⟨before, text, after, heq, hbefore, htext, rfl⟩ | ⟨hwell, hapart, rfl⟩) |
      ⟨⟨hwell, hjoins⟩, before, source, after, heq, hbefore, ⟨hnone, rfl⟩ | ⟨hstuck, rfl⟩⟩⟩)
    · exact .extension hblank
    · exact .pattern hsome heq hbefore htext
    · exact .patterns hsome hwell hapart
    · exact .source hsome hwell hjoins heq hbefore hnone
    · exact .walk hsome hwell hjoins heq hbefore hstuck
  · rintro (hblank | ⟨hsome, heq, hbefore, htext⟩ | ⟨hsome, hwell, hapart⟩ |
      ⟨hsome, hwell, hjoins, heq, hbefore, hnone⟩ | ⟨hsome, hwell, hjoins, heq, hbefore, hstuck⟩)
    · exact .inl ⟨hblank, rfl⟩
    · exact .inr ⟨hsome, .inl (.inl ⟨_, _, _, heq, hbefore, htext, rfl⟩)⟩
    · exact .inr ⟨hsome, .inl (.inr ⟨hwell, hapart, rfl⟩)⟩
    · exact .inr ⟨hsome, .inr ⟨⟨hwell, hjoins⟩, _, _, _, heq, hbefore, .inl ⟨hnone, rfl⟩⟩⟩
    · exact .inr ⟨hsome, .inr ⟨⟨hwell, hjoins⟩, _, _, _, heq, hbefore, .inr ⟨hstuck, rfl⟩⟩⟩

/-- A batch with a fault stops. -/
theorem IsFaulty.stops [Glob.Joining] (h : batch.IsFaulty options files) :
    ∃ failure, batch.Stops options files failure := by
  rcases hprepared : batch.prepared options ⟨files, []⟩ with failure | _
  · exact ⟨failure, prepared_eq_error_iff.mp hprepared⟩
  exfalso
  obtain ⟨setup, hsetup, hprepared⟩ := Action.bind_eq_ok_iff.mp hprepared
  obtain ⟨inputs, hinputs, _⟩ := Action.bind_eq_ok_iff.mp hprepared
  obtain ⟨⟨hwell, hjoins⟩, hsources⟩ := good_of_collected hinputs
  cases h with
  | extension hblank => exact exists_setup_iff.mp ⟨setup, hsetup⟩ hblank
  | pattern htext hbad => exact hbad (hwell _ htext)
  | patterns hapart => exact hapart hjoins
  | source hsource hnone => exact Bool.noConfusion ((hsources _ hsource).symm.trans hnone)

/-- A batch that stops has the outcome of its preparation, whatever the engine. -/
theorem Stops.outcome [Glob.Joining] (h : batch.Stops options world.files failure) :
    ∃ last, (∀ engine, (compileBatch engine batch options).outcome world = (.error failure, last)) ∧
      last.files = world.files ∧ printed last.journal = printed world.journal := by
  obtain ⟨events, hevents, hrun⟩ := batch.prepare_comesTo options world
  have hprepare := hrun world.journal
  rw [prepared_eq_error_iff.mpr h] at hprepare
  refine ⟨⟨world.files, world.journal ++ events⟩, fun engine => ?_, rfl, ?_⟩
  · rw [compileBatch_eq]
    exact Action.outcome_bind_error hprepare
  · rw [printed_append, hevents, List.append_nil]

end Batch

/-! ### The command -/

namespace CommandLine

variable {environment : Environment} {arguments : Arguments}

/-- The command cannot make out what is asked for: there is no working directory, a config file that takes
part cannot be used, or the settings name a charset that is unknown or a hook script that cannot be
loaded. -/
inductive CannotStart [ScriptLanguage] (environment : Environment) (arguments : Arguments) (files : Files) : Prop where
  | lost : files.here = none → CannotStart environment arguments files
  | user : files.exists? (Layer.userPath environment.configHome) = true →
      Layer.IsSpoiled files (Layer.userPath environment.configHome) → CannotStart environment arguments files
  | asked {path : Path} : arguments.config = some path → Layer.IsSpoiled files (Layer.filePath files path) →
      CannotStart environment arguments files
  | project {directory : Path} : arguments.config = none → directoryOf files = .ok directory →
      files.isFile (directory.join Layer.configFile) = true →
      Layer.IsSpoiled files (directory.join Layer.configFile) → CannotStart environment arguments files
  | charset {directory : Path} {settings : Layer} {name : String} : directoryOf files = .ok directory →
      settingsOf environment files directory arguments = .ok settings →
      settings.compile.charset = some name → Charset.IsUnknown name → CannotStart environment arguments files
  | hook {directory : Path} {settings : Layer} {script : Path} : directoryOf files = .ok directory →
      settingsOf environment files directory arguments = .ok settings →
      settings.compile.postParse = some script → (∀ hook, Hook.load files script ≠ .ok hook) →
      CannotStart environment arguments files

/-- Where something cannot be used the command makes out nothing. -/
theorem order_fails [ScriptLanguage] [EngineMaker] (h : CannotStart environment arguments files) :
    ∃ failure, order environment arguments files = .error failure := by
  rcases horder : order environment arguments files with failure | asked
  · exact ⟨failure, rfl⟩
  exfalso
  obtain ⟨directory, hdirectory, horder⟩ := Action.bind_eq_ok_iff.mp horder
  obtain ⟨settings, hsettings, horder⟩ := Action.bind_eq_ok_iff.mp horder
  obtain ⟨options, hoptions, _⟩ := Action.bind_eq_ok_iff.mp horder
  obtain ⟨base, hbase, _⟩ := Action.bind_eq_ok_iff.mp hsettings
  rw [Layer.resolve_eq] at hbase
  obtain ⟨own, hown, hbase⟩ := Action.bind_eq_ok_iff.mp hbase
  obtain ⟨shared, hshared, _⟩ := Action.bind_eq_ok_iff.mp hbase
  obtain ⟨hcharset, hhook, _⟩ := Options.ofSettings_ok hoptions
  cases h with
  | lost hlost => simp [directoryOf, hlost] at hdirectory
  | user hexists hspoiled => exact Layer.not_isSpoiled_of_user hown hexists hspoiled
  | asked hconfig hspoiled =>
    rw [hconfig, Layer.project] at hshared
    obtain ⟨layer, hload⟩ := Action.exists_of_map_ok hshared
    exact Layer.not_isSpoiled_of_load hload hspoiled
  | project hconfig hother hfile hspoiled =>
    cases hother.symm.trans hdirectory
    rw [hconfig, Layer.project] at hshared
    exact Layer.not_isSpoiled_of_discover hshared hfile hspoiled
  | charset hother hfound hname hunknown =>
    cases hother.symm.trans hdirectory
    cases hfound.symm.trans hsettings
    rw [Options.charsetOf, hname] at hcharset
    exact hunknown _ hcharset
  | hook hother hfound hscript hfails =>
    cases hother.symm.trans hdirectory
    cases hfound.symm.trans hsettings
    rw [Options.hookOf, hscript] at hhook
    obtain ⟨hook, hload⟩ := Action.exists_of_map_ok hhook
    exact hfails hook hload

end CommandLine

/-- **What cannot be set up has no effect.** A batch with a fault, wherever it is, stops with the first cause
in the order of its preparation. It stops alike with every engine, no file is changed and nothing is printed.
The command fails in the same way, with nothing shown at all, if it cannot make out what is asked for. -/
theorem faulty_fails [Glob.Joining] [ScriptLanguage] [EngineMaker] (world : World) :
    (∀ batch : Batch, ∀ options, batch.IsFaulty options world.files →
      ∃ failure, batch.Stops options world.files failure) ∧
    (∀ batch : Batch, ∀ options failure, batch.Stops options world.files failure →
      ∃ last, (∀ engine, (compileBatch engine batch options).outcome world = (.error failure, last)) ∧
        last.files = world.files ∧ printed last.journal = printed world.journal) ∧
    ∀ environment arguments, CommandLine.CannotStart environment arguments world.files →
      ∃ failure, CommandLine.order environment arguments world.files = .error failure ∧
        (CommandLine.compile environment arguments).outcome world = (.error failure, world) := by
  refine ⟨fun batch options h => h.stops, fun batch options failure h => h.outcome, ?_⟩
  intro environment arguments h
  obtain ⟨failure, horder⟩ := CommandLine.order_fails h
  refine ⟨failure, horder, ?_⟩
  rw [CommandLine.outcome_compile, horder]
  exact Action.outcome_bind_error (Action.outcome_ofExcept _ _)

/-- A template, and a source that is not there. -/
def Sample.lostSource : Batch := ⟨["a.hbs", "nope.hbs"], none, [], false⟩

/-- The command line of a run with a config file that is not there. -/
def Sample.lostConfig : CommandLine.Arguments :=
  {CommandLine.Arguments.empty with sources := ["a.hbs"], config := some "nope.toml"}

/-- A source that is missing stops a batch before its first template, and a config file that is missing
stops the command. -/
theorem faulty_fails_late :
    (∃ last, (∀ engine, (compileBatch engine Sample.lostSource Sample.options).outcome Sample.bundleWorld =
        (.error (.sourceNotFound "nope.hbs"), last)) ∧
      last.files = Sample.bundleWorld.files ∧ printed last.journal = []) ∧
    ∃ failure, (CommandLine.compile ⟨"/config", []⟩ Sample.lostConfig).outcome Sample.bundleWorld =
      (.error failure, Sample.bundleWorld) := by
  obtain ⟨hstops, hfails, hcommand⟩ := faulty_fails Sample.bundleWorld
  have hlost : "nope.hbs" ∈ Sample.lostSource.sources := by decide
  obtain ⟨failure, hstops⟩ := hstops Sample.lostSource Sample.options (.source hlost (by decide +kernel))
  obtain ⟨last, hengine, hfiles, hprinted⟩ := hfails _ _ _ hstops
  have hresult : ((compileBatch Sample.engine Sample.lostSource Sample.options).outcome Sample.bundleWorld).1 =
      .error (.sourceNotFound "nope.hbs") := by decide +kernel
  rw [hengine Sample.engine] at hresult
  cases hresult
  obtain ⟨other, _, hother⟩ := hcommand ⟨"/config", []⟩ Sample.lostConfig
    (.asked rfl (.unreadable (by decide +kernel)))
  exact ⟨⟨last, hengine, hfiles, hprinted⟩, other, hother⟩

/-- The batch of a missing source, with a pattern that nests deep. -/
def Sample.deepBatch : Batch := ⟨["nope.hbs"], none, [Sample.nestedPattern 260], false⟩

/-- A batch whose patterns are all well-formed need not get to a source that is missing: it stops at the
patterns together, and names none of them. -/
theorem stops_at_deep_pattern :
    (∀ text ∈ Sample.deepBatch.exclude, Glob.IsWellFormed text) ∧
      (∀ source ∈ Sample.deepBatch.sources, Sample.bundleWorld.files.exists? source = false) ∧
      ((compileBatch Sample.engine Sample.deepBatch Sample.options).outcome Sample.bundleWorld).1 =
        .error (.globPattern "<combined>") ∧ "<combined>" ∉ Sample.deepBatch.exclude := by
  have hstops : Sample.deepBatch.Stops Sample.options Sample.bundleWorld.files (.globPattern "<combined>") :=
    .patterns (by decide) Sample.wellFormed_nestedPattern Sample.not_areJoinable_nestedPattern
  obtain ⟨last, hengine, _⟩ := hstops.outcome
  refine ⟨Sample.wellFormed_nestedPattern, by decide +kernel, congrArg Prod.fst (hengine Sample.engine),
    fun hmem => ?_⟩
  have hlength := congrArg String.length (List.mem_singleton.mp hmem)
  rw [Sample.length_nestedPattern] at hlength
  exact absurd hlength (by decide)

end Precompiler
