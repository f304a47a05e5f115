import Precompiler.Proofs.Batches
import Precompiler.Proofs.Naming
import Precompiler.Proofs.Sample

/-! Running a batch again.

Where no extension of the list fits a module, what a batch writes is no template, and stands
nowhere where one was. So the batch finds the same templates again, each with the text it had, and
every output path is open to the place where the module is already (`Stands`). The second run
rewrites what is there, and in the end each place holds what it held (`rerun_batch`).

One thing may have changed: below a source there may be new directories, and a walk gets stuck
where the path to one is too long for the system (`rerun_stuck`). -/
namespace Precompiler

variable {engine : Engine} {options : Options} {batch : Batch} {setup : Setup}
  {pattern : ExtensionPattern} {excludes : Excludes} {files before after : Files}
  {output : Path → Option Path} {compiled : List Compiled} {puts done : List (Location × ByteArray)}
  {spot : Location} {name : String} {source : Path} {world last : World}

/-! ### Modules are no templates -/

/-- A path that reaches a name that a template has. -/
def NamesTemplate (pattern : ExtensionPattern) (files : Files) (path : Path) : Prop :=
  ∃ directory name, files.Reaches path directory name ∧ pattern.isMatch name = true

/-- Contents that have gone under names that no template has. -/
def Spared (pattern : ExtensionPattern) (puts : List (Location × ByteArray)) : Prop :=
  ∀ put ∈ puts, ∃ name ∈ put.1.getLast?, pattern.isMatch name = false

theorem Spared.lastPut (h : Spared pattern puts) (hname : pattern.isMatch name = true)
    (directory : Location) : lastPut (directory ++ [name]) puts = none := by
  refine lastPut_eq_none_iff.mpr fun put hput heq => ?_
  obtain ⟨other, hother, hmatch⟩ := h put hput
  rw [heq, List.getLast?_concat] at hother
  cases hother
  exact Bool.noConfusion (hmatch.symm.trans hname)

/-- What is named like a template reads the same after contents that are spared. -/
theorem Spared.read?_eq {path : Path} (h : Spared pattern puts) (hnamed : NamesTemplate pattern before path)
    (hlinkless : before.tree.Linkless) (hchanges : Files.Changes puts before after) :
    after.read? path = before.read? path := by
  obtain ⟨directory, name, hreaches, hmatch⟩ := hnamed
  exact hreaches.read?_eq hlinkless hchanges (h.lastPut hmatch directory)

/-- A run whose output paths are named for their templates puts nothing where a template could
be. -/
theorem Run.spared
    (h : Run engine options setup (batch.outputOf files setup) before compiled puts after)
    (hfile : ∀ path, batch.destination files ≠ .file path) (hspares : setup.pattern.SparesModules)
    (hnamed : ∀ c ∈ compiled, NamesTemplate setup.pattern files c.input) : Spared setup.pattern puts := by
  intro put hput
  obtain ⟨c, hc, path, hpath, hlands⟩ := Action.exists_of_forall₂ h.lands hput
  obtain ⟨made, _, _, _, hopen, _⟩ := hlands.opened
  obtain ⟨directory, name, hinput, _⟩ := hnamed c hc
  obtain ⟨front, hsegments⟩ := Destination.outputPath_segments hinput hfile hpath
  refine ⟨_, (hopen.named hsegments).2, ?_⟩
  rw [Destination.moduleName_eq]
  exact hspares.isMatch_append _

/-! ### The same templates again -/

/-- A source that is a directory, or named like a template. -/
def IsTemplateSource (pattern : ExtensionPattern) (files : Files) (source : Path) : Prop :=
  files.isDirectory source = true ∨ ∃ name ∈ source.fileName?, pattern.isMatch name = true

/-- What is new below a source can be listed on a walk of it. -/
def Listable (before after : Files) (source : Path) : Prop :=
  ∀ spot s, before.find? source = some (spot, .directory s) →
    ∀ names, after.tree.HasDirectory (spot ++ names) → ¬before.tree.HasDirectory (spot ++ names) →
      (walkPath source names).isUsable = true

/-- Whatever a template source contributes is named like a template. -/
theorem Contributes.matches {block : List Path} {input : Path} (hsound : files.Sound)
    (hsource : IsTemplateSource pattern files source)
    (h : Contributes pattern excludes files source block) (hinput : input ∈ block) :
    NamesTemplate pattern files input := by
  obtain ⟨directory, name, hreaches, hmatch | ⟨rfl, hfile⟩⟩ := h.reaches hsound hinput
  · exact ⟨directory, name, hreaches, hmatch⟩
  · rcases hsource with hdirectory | ⟨other, hother, hmatch⟩
    · exact Bool.noConfusion (hfile.symm.trans hdirectory)
    · cases hreaches.fileName?.symm.trans hother
      exact ⟨directory, _, hreaches, hmatch⟩

/-- What a walk shows of templates is not changed by what is spared. -/
theorem Spared.templatesIn (h : Spared pattern puts) (hchanges : Files.Changes puts before after)
    (hbefore : before.tree.Sound) (hafter : after.tree.Sound) :
    after.tree.templatesIn pattern excludes spot source =
      before.tree.templatesIn pattern excludes spot source := by
  refine FileTree.templatesIn_congr hbefore hafter fun names hne => ?_
  obtain ⟨front, name, rfl⟩ : ∃ front name, names = front ++ [name] :=
    ⟨_, _, (List.dropLast_concat_getLast hne).symm⟩
  by_cases hmatch : pattern.isMatch name = true
  · have hput := h.lastPut hmatch (spot ++ front)
    rw [List.append_assoc] at hput
    rcases hchanges.kept _ hput with heq | ⟨hnone, hnew⟩
    · rw [heq]
    · simp [hnone, hnew, isTemplate, Entry.isFile]
  · simp [isTemplate, hmatch]

/-- A source contributes again what it contributed, and is what it was. -/
theorem Contributes.again {block : List Path} (h : Contributes pattern excludes before source block)
    (hsource : IsTemplateSource pattern before source) (hlisted : Listable before after source)
    (hchanges : Files.Changes puts before after) (hspared : Spared pattern puts)
    (hlinkless : before.tree.Linkless) (hbefore : before.Sound) (hafter : after.tree.Sound) :
    Contributes pattern excludes after source block ∧
      after.isDirectory source = before.isDirectory source := by
  cases h with
  | @alone spot entry hfind hentry =>
    have halone : Contributes pattern excludes before source [source] := .alone hfind hentry
    obtain ⟨directory, name, hreaches, hmatch⟩ :=
      halone.matches hbefore hsource (List.mem_singleton_self source)
    obtain ⟨_, rfl, _⟩ := (hreaches.find?_eq_some_iff hlinkless).mp hfind
    have hagain := hchanges.find?_kept hlinkless hfind (hspared.lastPut hmatch directory)
    exact ⟨.alone hagain hentry, by simp only [Files.isDirectory, hfind, hagain]⟩
  | @below spot s hfind hlisting =>
    have hagain := hchanges.find?_directory (fun spot path hget => absurd hget (hlinkless spot path)) hfind
    have hspot : ∀ {files : Files}, files.find? source = some (spot, .directory s) →
        files.tree.HasDirectory spot := fun hfind => ⟨s, Files.get?_of_find? hfind⟩
    refine ⟨?_, by simp only [Files.isDirectory, hfind, hagain]⟩
    rw [← hspared.templatesIn hchanges hbefore.tree hafter]
    refine .below hagain fun path hstuck => ?_
    obtain ⟨names, rfl, husable, hdirectory, hway⟩ :=
      (FileTree.mem_walk_unlisted_iff hafter (hspot hagain)).mp hstuck
    -- A walk that is stuck now was stuck before, or the directory is new.
    by_cases hold : before.tree.HasDirectory (spot ++ names)
    · exact hlisting _ ((FileTree.mem_walk_unlisted_iff hbefore.tree (hspot hfind)).mpr
        ⟨names, rfl, husable, hold, hway⟩)
    · exact Bool.noConfusion (husable.symm.trans (hlisted spot s hfind names hdirectory hold))

theorem InputFacts.ofSources_congr {sources : List Path}
    (h : ∀ source ∈ sources, after.isDirectory source = before.isDirectory source) :
    InputFacts.ofSources after sources = InputFacts.ofSources before sources := by
  rcases sources with _ | ⟨source, _ | _⟩
  · rfl
  · exact congrArg (InputFacts.of 1) (h source List.mem_cons_self)
  · rfl

/-- Modules that do not share one file go again where they went. -/
theorem Batch.destination_again (hfile : ∀ path, batch.destination before ≠ .file path)
    (hkept : ∀ path, before.isDirectory path = true → after.isDirectory path = true)
    (hsources : ∀ source ∈ batch.sources, after.isDirectory source = before.isDirectory source) :
    batch.destination after = batch.destination before := by
  unfold destination at hfile ⊢
  by_cases hdry : batch.dryRun = true
  · rw [if_pos hdry, if_pos hdry]
  simp only [hdry, Bool.false_eq_true, if_false] at hfile ⊢
  rcases hdest : batch.dest with _ | path
  · rcases hall : batch.sources with _ | ⟨source, _ | _⟩
    · rfl
    · simp only [Destination.resolve, hsources source (by simp [hall])]
    · rfl
  · have hformat : Destination.isDirectoryFormat before path = true := by
      rw [hdest] at hfile
      by_contra hnot
      exact hfile path (if_neg hnot)
    have hagain : Destination.isDirectoryFormat after path = true := by
      unfold Destination.isDirectoryFormat at hformat ⊢
      simp only [Bool.or_eq_true] at hformat ⊢
      exact hformat.imp_left (Or.imp_left (hkept path))
    simp only [Destination.resolve, hformat, hagain]

/-- Each source contributes again what it contributed, and is what it was. -/
theorem sources_again {sources : List Path} {blocks : List (List Path)}
    (hblocks : List.Forall₂ (Contributes pattern excludes before) sources blocks)
    (hsources : ∀ source ∈ sources, IsTemplateSource pattern before source)
    (hlisted : ∀ source ∈ sources, Listable before after source)
    (hchanges : Files.Changes puts before after) (hspared : Spared pattern puts)
    (hlinkless : before.tree.Linkless) (hbefore : before.Sound) (hafter : after.tree.Sound) :
    List.Forall₂ (Contributes pattern excludes after) sources blocks ∧
      ∀ source ∈ sources, after.isDirectory source = before.isDirectory source := by
  have hboth : List.Forall₂ (fun source block => Contributes pattern excludes after source block ∧
      after.isDirectory source = before.isDirectory source) sources blocks := by
    refine ((List.forall₂_and_left _ _).mpr ⟨fun source hsource => hsource, hblocks⟩).imp ?_
    rintro source block ⟨hsource, hcontributes⟩
    exact hcontributes.again (hsources source hsource) (hlisted source hsource) hchanges hspared hlinkless
      hbefore hafter
  refine ⟨hboth.imp fun _ _ h => h.1, fun source hsource => ?_⟩
  obtain ⟨_, _, _, heq⟩ := Action.exists_of_forall₂ (List.Forall₂.flip hboth) hsource
  exact heq

/-- Every module has the output path that it had. -/
theorem Batch.outputOf_again (hfile : ∀ path, batch.destination before ≠ .file path)
    (hchanges : Files.Changes puts before after) (hlinkless : before.tree.Linkless)
    (hsources : ∀ source ∈ batch.sources, after.isDirectory source = before.isDirectory source) :
    batch.outputOf after setup = batch.outputOf before setup := by
  have hkept : ∀ path, before.isDirectory path = true → after.isDirectory path = true := by
    intro path hpath
    obtain ⟨spot, s, hfind⟩ := Files.isDirectory_iff.mp hpath
    exact Files.isDirectory_iff.mpr ⟨spot, s, hchanges.find?_directory
      (fun spot path hget => absurd hget (hlinkless spot path)) hfind⟩
  funext input
  rw [outputOf, outputOf, destination_again hfile hkept hsources]

/-! ### The same modules again -/

/-- A compiled template stands: its module is in its place, and it is compiled again to the same. -/
structure Stands (engine : Engine) (options : Options) (setup : Setup) (path : Path) (files : Files)
    (compiled : Compiled) (put : Location × ByteArray) : Prop where
  output : compiled.output = some path
  name : compiled.name = resolveName compiled.input options.root setup.pattern
  bytes : options.charset.encode compiled.text path = .ok put.2
  text : moduleText engine options setup files compiled.input = .ok compiled.text
  opened : files.OpenTo path put.1
  file : ∃ content x, files.tree.get? put.1 = some (.file content x)
  named : NamesTemplate setup.pattern files compiled.input

/-- What stands is compiled again after contents have been put where no template is. -/
theorem Stands.compiles {path : Path} {compiled : Compiled} {put : Location × ByteArray}
    (h : Stands engine options setup path before compiled put) (hlinkless : before.tree.Linkless)
    (hrewrites : Files.Rewrites done before after) (hspared : Spared setup.pattern done) :
    Compiles engine options setup path after (after.put put.1 (.file put.2 false)) compiled put := by
  obtain ⟨content, x, hfile⟩ := h.file
  obtain ⟨content', x', hget⟩ := hrewrites.changes.file hfile
  have hopen : after.OpenTo path put.1 := h.opened.later hlinkless hrewrites.changes
    (by simp [FileTree.HasDirectory, hget])
  have hread := hspared.read?_eq h.named hlinkless hrewrites.changes
  exact ⟨h.output, h.name, (moduleText_congr hread).trans h.text, h.bytes, after,
    hopen.makeDirectories, hopen, rfl⟩

/-- Compiled templates that stand are compiled again in a run that rewrites their modules. -/
theorem run_of_stands (hlinkless : before.tree.Linkless)
    (h : List.Forall₂ (fun compiled put => ∃ path, output compiled.input = some path ∧
      Stands engine options setup path before compiled put) compiled puts)
    (hrewrites : Files.Rewrites done before files) (hspared : Spared setup.pattern (done ++ puts)) :
    ∃ after, Run engine options setup output files compiled puts after ∧
      Files.Rewrites (done ++ puts) before after := by
  induction h generalizing done files with
  | nil => exact ⟨files, .nil files, by rwa [List.append_nil]⟩
  | @cons first put rest puts hfirst _ ih =>
    obtain ⟨path, hpath, hstands⟩ := hfirst
    obtain ⟨content, x, hfile⟩ := hstands.file
    have hcompiles := hstands.compiles hlinkless hrewrites
      fun put hput => hspared put (List.mem_append_left _ hput)
    rw [List.append_cons] at hspared ⊢
    obtain ⟨after, hrun, hafter⟩ := ih (hrewrites.put hfile put.2) hspared
    exact ⟨after, .cons hpath hcompiles hrun, hafter⟩

/-- Contents that are spared are apart from all templates. -/
theorem Run.apart (h : Run engine options setup output before compiled puts after)
    (hlinkless : before.tree.Linkless) (hspared : Spared setup.pattern puts)
    (hnamed : ∀ c ∈ compiled, NamesTemplate setup.pattern before c.input) :
    Apart before output (compiled.map (·.input)) := by
  refine List.pairwise_map.mpr (List.pairwise_of_forall_mem_list ?_)
  intro c hc later hlater path hpath heq
  obtain ⟨put, hput, other, _, hother, hspot, _⟩ :=
    Action.exists_of_forall₂ (List.Forall₂.flip (h.isPut hlinkless)) hc
  obtain ⟨directory, name, hreaches, hmatch⟩ := hnamed later hlater
  cases hpath.symm.trans hother
  rw [hspot, hreaches.spotOf hlinkless, Option.some.injEq] at heq
  exact lastPut_eq_none_iff.mp (hspared.lastPut hmatch directory) put hput heq

/-- What a run has compiled stands after it, if it puts nothing where a template is. -/
theorem Run.stands (h : Run engine options setup output before compiled puts after)
    (hlinkless : before.tree.Linkless) (hspared : Spared setup.pattern puts)
    (hnamed : ∀ c ∈ compiled, NamesTemplate setup.pattern before c.input)
    (hagain : ∀ c ∈ compiled, NamesTemplate setup.pattern after c.input) :
    List.Forall₂ (fun compiled put => ∃ path, output compiled.input = some path ∧
      Stands engine options setup path after compiled put) compiled puts := by
  have htexts := h.moduleText (.refl before) hlinkless
    (fun c hc => (hnamed c hc).imp fun directory ⟨name, hreaches, _⟩ => ⟨name, hreaches, lastPut_nil _⟩)
    (h.apart hlinkless hspared hnamed)
  refine ((List.forall₂_and_left _ _).mpr ⟨fun c hc => hc, h.lands⟩).imp ?_
  rintro c put ⟨hc, path, hpath, hlands⟩
  obtain ⟨made, earlier, later, hearlier, hopen, hlater⟩ := hlands.opened
  have hread := hspared.read?_eq (hnamed c hc) hlinkless h.writes.changes
  obtain ⟨content, x, hfile⟩ : ∃ content x, after.tree.get? put.1 = some (.file content x) := by
    rcases hput : lastPut put.1 (put :: later) with _ | content
    · exact absurd rfl (lastPut_eq_none_iff.mp hput put List.mem_cons_self)
    · exact ⟨content, false, (hlater.put _ _ hput).1⟩
  exact ⟨path, hpath, hlands.output, h.name c hc, hlands.bytes,
    (moduleText_congr hread).trans (htexts c hc),
    hopen.later (hearlier.linkless hlinkless) hlater (by simp [FileTree.HasDirectory, hfile]),
    ⟨content, x, hfile⟩, hagain c hc⟩

/-! ### Whole batches -/

/-- A batch whose modules cannot be taken for templates: no extension fits a module, every source
is a directory or named like a template, and the modules do not share one file. -/
structure Batch.IsRepeatable (batch : Batch) (options : Options) (files : Files) : Prop where
  spares : ∀ pattern, options.extensionPattern = .ok pattern → pattern.SparesModules
  sources : ∀ pattern, options.extensionPattern = .ok pattern →
    ∀ source ∈ batch.sources, IsTemplateSource pattern files source
  dest : ∀ path, batch.destination files ≠ .file path

/-- What is compiled of template sources is named like templates. -/
theorem named_of_contributes {sources : List Path} {blocks : List (List Path)} (hsound : files.Sound)
    (hsources : ∀ source ∈ sources, IsTemplateSource pattern files source)
    (hblocks : List.Forall₂ (Contributes pattern excludes files) sources blocks)
    (hinputs : compiled.map (·.input) = blocks.flatten) :
    ∀ c ∈ compiled, NamesTemplate pattern files c.input := by
  intro c hc
  have hinput : c.input ∈ blocks.flatten := hinputs ▸ List.mem_map_of_mem hc
  obtain ⟨block, hblock, hmem⟩ := List.mem_flatten.mp hinput
  obtain ⟨source, hsource, hcontributes⟩ := Action.exists_of_forall₂ hblocks hblock
  exact hcontributes.matches hsound (hsources source hsource) hmem

/-- **Running a batch again changes nothing.** A batch that has succeeded, and whose modules cannot be
taken for templates, succeeds again on the files that it has left, with the same templates, outputs,
names and texts, and leaves the very same files, as far as the directories that are new below its
sources can be listed. -/
theorem rerun_batch [Glob.Joining] (hsound : world.files.Sound) (hlinkless : world.files.tree.Linkless)
    (hdry : batch.dryRun = false) (hrepeatable : batch.IsRepeatable options world.files)
    (hrun : (compileBatch engine batch options).outcome world = (.ok compiled, last))
    (hlisted : ∀ source ∈ batch.sources, Listable world.files last.files source)
    (journal : List Event) :
    ∃ more, (compileBatch engine batch options).outcome ⟨last.files, journal⟩ =
      (.ok compiled, ⟨last.files, more⟩) := by
  obtain ⟨setup, inputs, hsetup, hinputs, _, hchain⟩ := compileBatch_ok hrun
  obtain ⟨rfl, puts, hway⟩ := Batch.run_of_chain hdry hchain
  have hchanges : Files.Changes puts world.files last.files := hway.writes.changes
  have hafter : last.files.Sound := hway.writes.isSound hsound
  obtain ⟨hpattern, hfacts⟩ := Setup.of_eq_ok_iff.mp hsetup
  have hsources := hrepeatable.sources _ hpattern
  obtain ⟨excludes, hexcludes, blocks, hblocks, hflatten⟩ := (collectInputs_ok_iff hsound.tree).mp hinputs
  have hnamed := named_of_contributes hsound hsources hblocks hflatten.symm
  have hspared : Spared setup.pattern puts :=
    hway.spared hrepeatable.dest (hrepeatable.spares _ hpattern) hnamed
  -- The sources are what they were, and contribute what they contributed.
  obtain ⟨hblocks', hdirectories⟩ := sources_again hblocks hsources hlisted hchanges hspared hlinkless
    hsound hafter.tree
  have hsetup' : Setup.of options last.files batch.sources = .ok setup :=
    Setup.of_eq_ok_iff.mpr ⟨hpattern, hfacts.trans (InputFacts.ofSources_congr hdirectories).symm⟩
  have hinputs' : ((collectInputs batch.sources setup.pattern batch.exclude).outcome
      ⟨last.files, journal⟩).1 = .ok (compiled.map (·.input)) :=
    (collectInputs_ok_iff (show (World.mk last.files journal).files.tree.Sound from hafter.tree)).mpr
      ⟨excludes, hexcludes, blocks, hblocks', hflatten⟩
  have houtput : batch.outputOf last.files setup = batch.outputOf world.files setup :=
    Batch.outputOf_again hrepeatable.dest hchanges hlinkless hdirectories
  -- So the templates are compiled to what they have been compiled to, and put where they are.
  have hnamed' := named_of_contributes hafter
    (fun source hsource => by
      have h := hsources source hsource
      rwa [IsTemplateSource, ← hdirectories source hsource] at h)
    hblocks' hflatten.symm
  obtain ⟨final, hagain, hrewrites⟩ := run_of_stands (hchanges.linkless hlinkless)
    (hway.stands hlinkless hspared hnamed hnamed') (.refl hafter.tree) hspared
  have hfinal : final = last.files :=
    hrewrites.eq fun spot content hput => (hchanges.put spot content hput).1
  rw [hfinal, ← houtput] at hagain
  obtain ⟨events, _, hgoes⟩ : (compileBatch engine batch options).Becomes last.files _ _ :=
    @compileBatch_becomes _ _ _ _ _ ⟨last.files, journal⟩ _ hsetup' hinputs'
  obtain ⟨more, hcompiled⟩ := hagain.chain (journal ++ events)
  exact ⟨more, (hgoes journal).trans (Action.outcome_mapM_ok_iff.mpr hcompiled)⟩

/-- With the options of the samples no module is named like a template. -/
theorem Sample.isRepeatable {directory : Path}
    (hsources : ∀ source ∈ batch.sources, IsTemplateSource Sample.pattern files source)
    (hdest : batch.destination files = .directory directory) :
    batch.IsRepeatable Sample.options files where
  spares := by
    intro pattern heq
    cases Sample.extensionPattern_options.symm.trans heq
    unfold ExtensionPattern.SparesModules
    decide
  sources := by
    intro pattern heq
    cases Sample.extensionPattern_options.symm.trans heq
    exact hsources
  dest := fun path heq => by cases hdest.symm.trans heq

/-- A source directory whose modules go into it. -/
def Sample.folder : Batch := ⟨["s"], none, [], false⟩

/-- The files of this source. -/
def Sample.folderWorld : World := Sample.worldWith [["s"]] [(["s", "a.hbs"], "A")]

/-- The module of the first run is there when the directory is walked again. -/
theorem rerun_batch_folder :
    ∃ last more, (compileBatch Sample.engine Sample.folder Sample.options).outcome Sample.folderWorld =
        (.ok [⟨"s/a.hbs", some "s/a.js", "a", "A\n"⟩], last) ∧
      last.files.tree.get? ["s", "a.js"] = some (.file "A\n".toUTF8 false) ∧
      (compileBatch Sample.engine Sample.folder Sample.options).outcome ⟨last.files, []⟩ =
        (.ok [⟨"s/a.hbs", some "s/a.js", "a", "A\n"⟩], ⟨last.files, more⟩) := by
  have hresult : ((compileBatch Sample.engine Sample.folder Sample.options).outcome
      Sample.folderWorld).1 = .ok [⟨"s/a.hbs", some "s/a.js", "a", "A\n"⟩] := by
    decide +kernel
  have hafter : ((compileBatch Sample.engine Sample.folder Sample.options).outcome
      Sample.folderWorld).2.files.tree = ⟨[(["s"], .directory false),
        (["s", "a.hbs"], .file "A".toUTF8 false), (["s", "a.js"], .file "A\n".toUTF8 false)]⟩ := by
    decide +kernel
  obtain ⟨last, hrun⟩ := Action.exists_outcome hresult
  rw [hrun] at hafter
  have hsources : ∀ source ∈ Sample.folder.sources,
      Sample.folderWorld.files.isDirectory source = true := by
    decide +kernel
  have hdest : Sample.folder.destination Sample.folderWorld.files = .directory "s" := by decide +kernel
  have hrepeatable : Sample.folder.IsRepeatable Sample.options Sample.folderWorld.files :=
    Sample.isRepeatable (fun source hsource => .inl (hsources source hsource)) hdest
  -- The first run makes no directory.
  have hold : ∀ spot, last.files.tree.HasDirectory spot →
      Sample.folderWorld.files.tree.HasDirectory spot := by
    rintro spot ⟨s, hget⟩
    rw [hafter] at hget
    unfold FileTree.get? at hget
    split at hget
    next hroot => exact hroot ▸ FileTree.hasDirectory_root _
    next =>
      have hmem := FileTree.mem_of_lookup hget
      simp only [List.mem_cons, Prod.mk.injEq, reduceCtorEq, and_false, List.not_mem_nil, or_false] at hmem
      rw [hmem.1]
      decide +kernel
  obtain ⟨more, hagain⟩ := rerun_batch (by decide +kernel) (FileTree.linkless_of_entries (by decide +kernel))
    rfl hrepeatable hrun (fun source _ spot s _ names hnow hnew => absurd (hold _ hnow) hnew) []
  exact ⟨last, more, hrun, by rw [hafter]; decide +kernel, hagain⟩

/-! ### A walk that gets stuck -/

/-- A path behind so many segments that say nothing. -/
def Path.dotted : Nat → Path → Path
  | 0, path => path
  | n + 1, path => "." ++ "/" ++ dotted n path

theorem Path.segments_dotted (n : Nat) (path : Path) :
    segments (dotted n path) = List.replicate n "." ++ segments path := by
  induction n with
  | zero => rfl
  | succ n ih =>
    rw [dotted, segments_append, ih, List.replicate_succ]
    rfl

theorem Path.utf8ByteSize_dotted (n : Nat) (path : Path) :
    (dotted n path).utf8ByteSize = 2 * n + path.utf8ByteSize := by
  induction n with
  | zero => simp [dotted]
  | succ n ih =>
    rw [dotted, String.utf8ByteSize_append, String.utf8ByteSize_append, ih,
      show ".".utf8ByteSize = 1 from rfl, show "/".utf8ByteSize = 1 from rfl]
    omega

theorem Path.isUsable_dotted {n : Nat} {path : Path} (h : path.isUsable = true)
    (hshort : 2 * n + path.utf8ByteSize ≤ maxPathBytes) : (dotted n path).isUsable = true := by
  have hclean : '\x00' ∉ (dotted n path).toList := by
    simp only [isUsable, Bool.and_eq_true, Bool.not_eq_true', List.contains_eq_mem,
      decide_eq_false_iff_not] at h
    clear hshort
    induction n with
    | zero => exact h.2
    | succ n ih => simp [dotted, String.toList_append, ih]
  rw [← utf8ByteSize_dotted] at hshort
  simp [isUsable, hshort, hclean]

theorem Files.find?_dotted {n : Nat} {path : Path} {entry : Entry} (hrelative : path.isAbsolute = false)
    (husable : (Path.dotted n path).isUsable = true) (hfind : files.find? path = some (spot, entry)) :
    files.find? (Path.dotted n path) = some (spot, entry) := by
  obtain ⟨hne, _, begin, hbegin, hleads⟩ := resolve_eq_ok_iff.mp (find?_eq_some_iff.mp hfind)
  refine find?_eq_some_iff.mpr (resolve_eq_ok_iff.mpr ⟨?_, husable, begin, ?_, ?_⟩)
  · cases n <;> simp [Path.dotted, hne]
  · have hdotted : (Path.dotted n path).isAbsolute = false := by
      cases n
      · exact hrelative
      · simp [Path.dotted, Path.isAbsolute, String.toList_append]
    rwa [start, hdotted, ← hrelative]
  · rw [Path.segments_dotted]
    clear husable hfind
    induction n with
    | zero => exact hleads
    | succ n ih => exact .idle (by decide) ih

/-- A source directory behind a path that is almost too long, and a template whose module goes into a
new directory there. -/
def Sample.deep (source : Path) : Batch := ⟨[source, "a.hbs"], some "s/12345678901234567890", [], false⟩

/-- The files of these sources. -/
def Sample.deepWorld : World := Sample.worldWith [["s"]] [(["a.hbs"], "A")]

/-- The files that the first run leaves. -/
def Sample.deepFiles : Files where
  tree := ⟨[(["s"], .directory false), (["a.hbs"], .file "A".toUTF8 false),
    (["s", "12345678901234567890"], .directory false),
    (["s", "12345678901234567890", "a.js"], .file "A\n".toUTF8 false)]⟩
  here := some []

theorem Sample.collected_deep (husable : source.isUsable = true)
    (hfind : Sample.deepWorld.files.find? source = some (["s"], .directory false)) :
    ((collectInputs (Sample.deep source).sources (Sample.setup 2 false).pattern
      (Sample.deep source).exclude).outcome Sample.deepWorld).1 = .ok ["a.hbs"] := by
  have hsound : Sample.deepWorld.files.tree.Sound := by decide +kernel
  have hempty : ∀ names, names ≠ [] → Sample.deepWorld.files.tree.get? (["s"] ++ names) = none := by
    intro names hne
    rcases hget : Sample.deepWorld.files.tree.get? (["s"] ++ names) with _ | entry
    · rfl
    · have hmem := hsound.mem_iff.mpr ⟨by simp, hget⟩
      simp [Sample.deepWorld, Sample.worldWith, Sample.files, hne] at hmem
  have hfile : Sample.deepWorld.files.find? "a.hbs" = some (["a.hbs"], .file "A".toUTF8 false) := by
    decide +kernel
  obtain ⟨excludes, hexcludes⟩ : ∃ excludes, Excludes.ofList [] = .ok excludes := ⟨_, rfl⟩
  exact (collectInputs_ok_iff hsound).mpr ⟨excludes, hexcludes, [[], ["a.hbs"]],
    .cons (contributes_empty hsound hfind husable hempty) (.cons (.alone hfile rfl) .nil), rfl⟩

theorem Sample.compiled_deep (husable : source.isUsable = true)
    (hfind : Sample.deepWorld.files.find? source = some (["s"], .directory false)) :
    ∃ last, (compileBatch Sample.engine (Sample.deep source) Sample.options).outcome Sample.deepWorld =
        (.ok [⟨"a.hbs", some "s/12345678901234567890/a.js", "a", "A\n"⟩], last) ∧
      last.files = Sample.deepFiles := by
  have hsetup : Setup.of Sample.options Sample.deepWorld.files (Sample.deep source).sources =
      .ok (Sample.setup 2 false) := rfl
  obtain ⟨last, hrun, hfiles⟩ := @compileBatch_collected Sample.engine Sample.options (Sample.deep source)
    (Sample.setup 2 false) _ Sample.deepWorld _ hsetup (Sample.collected_deep husable hfind)
  -- The source makes no difference to where the module goes.
  have hsame : (Sample.deep source).compileOne Sample.engine Sample.options Sample.deepWorld.files
      (Sample.setup 2 false) = (Sample.deep "s").compileOne Sample.engine Sample.options
        Sample.deepWorld.files (Sample.setup 2 false) := rfl
  rw [hsame] at hrun hfiles
  have hresult : (((["a.hbs"] : List Path).mapM ((Sample.deep "s").compileOne Sample.engine
      Sample.options Sample.deepWorld.files (Sample.setup 2 false))).outcome Sample.deepWorld).1 =
        .ok [⟨"a.hbs", some "s/12345678901234567890/a.js", "a", "A\n"⟩] := by
    decide +kernel
  have htree : (((["a.hbs"] : List Path).mapM ((Sample.deep "s").compileOne Sample.engine
      Sample.options Sample.deepWorld.files (Sample.setup 2 false))).outcome Sample.deepWorld).2.files.tree =
        Sample.deepFiles.tree := by
    decide +kernel
  have hhere : (((["a.hbs"] : List Path).mapM ((Sample.deep "s").compileOne Sample.engine
      Sample.options Sample.deepWorld.files (Sample.setup 2 false))).outcome Sample.deepWorld).2.files.here =
        Sample.deepFiles.here := by
    decide +kernel
  have htree' : last.files.tree = Sample.deepFiles.tree := (congrArg Files.tree hfiles).trans htree
  have hhere' : last.files.here = Sample.deepFiles.here := (congrArg Files.here hfiles).trans hhere
  refine ⟨last, hrun.trans (congrArg (·, last) hresult), ?_⟩
  generalize last.files = left at htree' hhere'
  cases left
  simp only at htree' hhere'
  rw [htree', hhere']

/-- A second run need not succeed: what the first run has made below a source may have a path that is
too long for a walk of the source. -/
theorem rerun_stuck :
    ∃ source last, Sample.deepWorld.files.tree.Linkless ∧
      (Sample.deep source).IsRepeatable Sample.options Sample.deepWorld.files ∧
      (compileBatch Sample.engine (Sample.deep source) Sample.options).outcome Sample.deepWorld =
        (.ok [⟨"a.hbs", some "s/12345678901234567890/a.js", "a", "A\n"⟩], last) ∧
      ∀ journal compiled left, (compileBatch Sample.engine (Sample.deep source) Sample.options).outcome
        ⟨last.files, journal⟩ ≠ (.ok compiled, left) := by
  have hsize := Path.utf8ByteSize_dotted 2040 "s"
  have husable : (Path.dotted 2040 "s").isUsable = true := Path.isUsable_dotted (by decide) (by decide)
  have hdotted : ∀ {files : Files}, files.find? "s" = some (["s"], .directory false) →
      files.find? (Path.dotted 2040 "s") = some (["s"], .directory false) :=
    Files.find?_dotted (by decide) husable
  generalize Path.dotted 2040 "s" = source at hsize husable hdotted
  have hlong : maxPathBytes < (source.join "12345678901234567890").utf8ByteSize := by
    have hjoin := @Path.le_utf8ByteSize_join source "12345678901234567890" (by decide)
    rw [show "12345678901234567890".utf8ByteSize = 20 from rfl] at hjoin
    rw [show "s".utf8ByteSize = 1 from rfl] at hsize
    rw [maxPathBytes]
    omega
  obtain ⟨last, hrun, hfiles⟩ := Sample.compiled_deep husable (hdotted (by decide +kernel))
  have hsources : ∀ source' ∈ (Sample.deep source).sources,
      IsTemplateSource Sample.pattern Sample.deepWorld.files source' := by
    intro source' hsource
    rcases List.mem_cons.mp hsource with rfl | hsource
    · exact .inl (Files.isDirectory_iff.mpr ⟨_, _, hdotted (by decide +kernel)⟩)
    · obtain rfl := List.mem_singleton.mp hsource
      exact .inr ⟨"a.hbs", by decide +kernel, by decide +kernel⟩
  have hdest : (Sample.deep "s").destination Sample.deepWorld.files =
      .directory "s/12345678901234567890" := by
    decide +kernel
  refine ⟨source, last, FileTree.linkless_of_entries (by decide +kernel),
    Sample.isRepeatable hsources hdest, hrun, fun journal compiled left hagain => ?_⟩
  obtain ⟨setup, inputs, _, hinputs, _⟩ := compileBatch_ok hagain
  rw [hfiles] at hinputs
  have hsound : Sample.deepFiles.tree.Sound := by decide +kernel
  obtain ⟨excludes, _, blocks, hblocks, _⟩ :=
    (collectInputs_ok_iff (show (World.mk Sample.deepFiles journal).files.tree.Sound from hsound)).mp hinputs
  obtain ⟨block, _, hblock, _⟩ := List.forall₂_cons_left_iff.mp hblocks
  have hfind : Sample.deepFiles.find? source = some (["s"], .directory false) :=
    hdotted (by decide +kernel)
  have hstuck := FileTree.walk_stuck hsound (show Sample.deepFiles.tree.HasDirectory ["s"] by decide +kernel)
    (show Sample.deepFiles.tree.HasDirectory (["s"] ++ ["12345678901234567890"]) by decide +kernel)
    husable hlong
  cases hblock with
  | alone hother hentry =>
    cases hfind.symm.trans hother
    cases hentry
  | below hother hlisted =>
    cases hfind.symm.trans hother
    exact hlisted _ hstuck

end Precompiler
