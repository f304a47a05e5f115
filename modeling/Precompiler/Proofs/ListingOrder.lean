import Precompiler.Proofs.Batches
import Precompiler.Proofs.Charsets
import Precompiler.Proofs.Collected
import Precompiler.Proofs.Files.Relisting
import Precompiler.Proofs.Sample

/-! The order of a walk.

What a directory contributes comes in one order, whatever the order in which directories are listed: the names that
lead to a template are compared one after another, and each by its bytes (`ComesBefore`). This is not the order of
the paths as texts, where `a-b` comes before what stands in `a`. Names are sorted in one directory at a time, and by
their characters, but a smaller text has smaller bytes, so that is enough (`Contributes.increasing`).

Nothing else that a batch does depends on the order of listings either: every action of it goes alike in worlds that
differ in nothing else (`Action.Alike`, `compileBatch_alike`). -/
namespace Precompiler

/-! ### The order of a block -/

/-- Of two paths below a source one comes before the other: component by component, and by the bytes of each. -/
def ComesBefore (source path next : Path) : Prop :=
  ∃ names others, path.segments = source.bareSegments ++ names ∧ next.segments = source.bareSegments ++ others ∧
    names.map Text.bytesOf < others.map Text.bytesOf

/-- What a directory contributes comes in the order of the components. -/
theorem Contributes.increasing {pattern : ExtensionPattern} {excludes : Excludes} {files : Files} {source : Path}
    {block : List Path} (hsound : files.tree.Sound) (h : Contributes pattern excludes files source block) :
    block.Pairwise (ComesBefore source) := by
  cases h with
  | alone => exact List.pairwise_singleton ..
  | @below spot s hfind hwalk =>
    have hsegments : ∀ names ∈ files.tree.templatesIn pattern excludes spot source,
        (walkPath source names).segments = source.bareSegments ++ names := fun names hnames => by
      obtain ⟨hne, _, entry, hget, _⟩ := (FileTree.mem_templatesIn_iff hsound).mp hnames
      exact segments_walkPath hne (hsound.above hget).1
    refine List.pairwise_map.mpr ((FileTree.templatesIn_increasing hsound).imp_of_mem ?_)
    intro names others hnames hothers hlt
    exact ⟨names, others, hsegments names hnames, hsegments others hothers,
      List.map_lt (fun _ _ => bytesOf_lt) hlt⟩

/-! ### Actions in worlds that differ in their listings -/

/-- Another world that is the same but for the order in which directories list their entries. -/
structure World.Relisted (world other : World) : Prop where
  files : world.files.Relisted other.files
  journal : other.journal = world.journal

namespace Action

variable {α β : Type}

/-- Two actions go alike in two such worlds: they come to the same, and leave two such worlds. -/
def Alike (action other : Action α) : Prop :=
  ∀ world left, world.Relisted left → (other.outcome left).1 = (action.outcome world).1 ∧
    (action.outcome world).2.Relisted (other.outcome left).2

/-- An action takes no notice of the order of listings. -/
abbrev IgnoresOrder (action : Action α) : Prop := action.Alike action

theorem Alike.ofExcept (result : Except Failure α) : (Action.ofExcept result).IgnoresOrder := by
  intro world left h
  rw [outcome_ofExcept, outcome_ofExcept]
  exact ⟨rfl, h⟩

theorem Alike.pure (a : α) : (pure a : Action α).IgnoresOrder := .ofExcept (.ok a)

theorem Alike.throw (failure : Failure) : (throw failure : Action α).IgnoresOrder :=
  .ofExcept (.error failure)

theorem Alike.record (events : List Event) : (Action.record events).IgnoresOrder :=
  fun _ _ h => ⟨rfl, h.files, congrArg (· ++ events) h.journal⟩

theorem Alike.setFiles {files other : Files} (h : files.Relisted other) :
    (Action.setFiles files).Alike (Action.setFiles other) := fun _ _ hworld => ⟨rfl, h, hworld.journal⟩

theorem Alike.bind {action other : Action α} {next following : α → Action β} (h : action.Alike other)
    (hnext : ∀ a, (next a).Alike (following a)) : (action >>= next).Alike (other >>= following) := by
  intro world left hworld
  obtain ⟨hresult, hleft⟩ := h world left hworld
  rw [outcome_bind, outcome_bind]
  generalize action.outcome world = ran at hresult hleft
  generalize other.outcome left = ran' at hresult hleft
  obtain ⟨result, after⟩ := ran
  obtain ⟨result', after'⟩ := ran'
  obtain rfl : result' = result := hresult
  cases result' with
  | error failure => exact ⟨rfl, hleft⟩
  | ok a => exact hnext a after after' hleft

/-- What looks at the files goes alike if what comes then does, for all files that differ in their listings. -/
theorem Alike.files {next : Files → Action β}
    (h : ∀ files other, files.Relisted other → (next files).Alike (next other)) :
    (Action.files >>= next).IgnoresOrder := fun world left hworld =>
  h world.files left.files hworld.files world left hworld

theorem Alike.mapM {step : α → Action β} (h : ∀ a, (step a).IgnoresOrder) (as : List α) :
    (as.mapM step).IgnoresOrder := by
  induction as with
  | nil => exact .pure []
  | cons a as ih =>
    rw [List.mapM_cons]
    exact (h a).bind fun b => ih.bind fun bs => .pure (b :: bs)

end Action

/-! ### Batches -/

theorem templateOfStep_ignoresOrder (pattern : ExtensionPattern) (excludes : Excludes) (source : Path)
    (step : WalkStep) : (templateOfStep pattern excludes source step).IgnoresOrder := by
  cases step with
  | unlisted path => exact .throw _
  | visit names path entry =>
    simp only [templateOfStep]
    split
    · exact .pure _
    · split
      · exact (Action.Alike.record _).bind fun _ => .pure _
      · exact .pure _

theorem templatesOf_ignoresOrder (pattern : ExtensionPattern) (excludes : Excludes) (source : Path) :
    (templatesOf pattern excludes source).IgnoresOrder := by
  refine .files fun files other h => ?_
  rw [h.find?]
  split
  · exact .throw _
  · rw [FileTree.walk_perm h.once h.entries]
    exact (Action.Alike.mapM (templateOfStep_ignoresOrder pattern excludes source) _).bind fun _ => .pure _
  · exact .pure _

theorem collectInputs_ignoresOrder [Glob.Joining] (sources : List Path) (pattern : ExtensionPattern)
    (exclude : List String) :
    (collectInputs sources pattern exclude).IgnoresOrder :=
  (Action.Alike.ofExcept _).bind fun excludes =>
    (Action.Alike.mapM (templatesOf_ignoresOrder pattern excludes) sources).bind fun _ => .pure _

theorem readText_ignoresOrder (charset : Charset) (path : Path) : (readText charset path).IgnoresOrder := by
  refine .files fun files other h => ?_
  rw [h.read?]
  split
  · exact .throw _
  · exact .ofExcept _

theorem compileSource_ignoresOrder (engine : Engine) (file : Path) (source : String) (hook : Option Hook)
    (helpers : CompilerOptions) : (compileSource engine file source hook helpers).IgnoresOrder := by
  have hend : ∀ ast, (do
      Action.logAll (engine.precompileNotes ast helpers)
      Action.ofExcept ((engine.precompile ast helpers).mapError (Failure.blaming file))).IgnoresOrder := fun ast =>
    (Action.Alike.record _).bind fun _ => .ofExcept _
  refine (Action.Alike.record _).bind fun _ => (Action.Alike.ofExcept _).bind fun ast => ?_
  cases hook with
  | none => exact (Action.Alike.pure ast).bind hend
  | some own =>
    exact (Action.Alike.record _).bind fun _ => (Action.Alike.record _).bind fun _ =>
      (Action.Alike.ofExcept _).bind hend

theorem writeOutput_ignoresOrder (charset : Charset) (path : Path) (text : String) :
    (writeOutput charset path text).IgnoresOrder := by
  refine (Action.Alike.ofExcept _).bind fun bytes => .files fun files other h => ?_
  obtain ⟨hmade, hresult⟩ := h.makeChain (outputDirectory path).ancestors
  unfold Files.makeDirectories
  generalize files.makeChain (outputDirectory path).ancestors = made at hmade hresult
  generalize other.makeChain (outputDirectory path).ancestors = made' at hmade hresult
  obtain ⟨made, result⟩ := made
  obtain ⟨made', result'⟩ := made'
  obtain rfl : result' = result := hresult
  refine (Action.Alike.setFiles hmade).bind fun _ => (Action.Alike.ofExcept _).bind fun _ => ?_
  obtain ⟨hreplaced, hdone⟩ := hmade.replaceFile (outputDirectory path) path bytes
  dsimp only at hreplaced hdone
  generalize made.replaceFile (outputDirectory path) path bytes = replaced at hreplaced hdone
  generalize made'.replaceFile (outputDirectory path) path bytes = replaced' at hreplaced hdone
  obtain ⟨replaced, done⟩ := replaced
  obtain ⟨replaced', done'⟩ := replaced'
  obtain rfl : done' = done := hdone
  exact (Action.Alike.setFiles hreplaced).bind fun _ => Action.Alike.ofExcept _

theorem compileTemplate_ignoresOrder (engine : Engine) (options : Options) (setup : Setup) (input : Path)
    (output : Option Path) : (compileTemplate engine options setup input output).IgnoresOrder := by
  refine (Action.Alike.record _).bind fun _ => (readText_ignoresOrder _ _).bind fun source =>
    (compileSource_ignoresOrder _ _ _ _ _).bind fun payload => ?_
  cases output with
  | none => exact .pure _
  | some path =>
    exact (writeOutput_ignoresOrder _ _ _).bind fun _ => (Action.Alike.record _).bind fun _ => .pure _

theorem Setup.of_relisted {files other : Files} (h : files.Relisted other) (options : Options)
    (sources : List Path) : Setup.of options other sources = Setup.of options files sources := by
  have hfacts : InputFacts.ofSources other sources = InputFacts.ofSources files sources := by
    unfold InputFacts.ofSources
    split
    · rw [h.isDirectory]
    · rfl
  rw [Setup.of, Setup.of, hfacts]

theorem Batch.destination_relisted {files other : Files} (h : files.Relisted other) (batch : Batch) :
    batch.destination other = batch.destination files := by
  unfold Batch.destination Destination.resolve Destination.isDirectoryFormat
  simp only [h.isDirectory]

theorem Batch.prepare_ignoresOrder [Glob.Joining] (batch : Batch) (options : Options) :
    (batch.prepare options).IgnoresOrder := by
  have hall : (do
      let setup ← Action.ofExcept (Setup.of options (← Action.files) batch.sources)
      let inputs ← collectInputs batch.sources setup.pattern batch.exclude
      return (setup, inputs)).IgnoresOrder := by
    refine .files fun files other h => ?_
    rw [Setup.of_relisted h]
    exact (Action.Alike.ofExcept _).bind fun setup => (collectInputs_ignoresOrder _ _ _).bind fun _ => .pure _
  unfold Batch.prepare
  split
  · exact (Action.Alike.record _).bind fun _ => hall
  · exact hall

/-- A batch takes no notice of the order of listings. -/
theorem compileBatch_ignoresOrder [Glob.Joining] (engine : Engine) (batch : Batch) (options : Options) :
    (compileBatch engine batch options).IgnoresOrder := by
  rw [compileBatch_eq]
  refine (batch.prepare_ignoresOrder options).bind fun (setup, inputs) => .files fun files other h => ?_
  rw [batch.destination_relisted h]
  exact (Action.Alike.record _).bind fun _ => .mapM (fun _ => compileTemplate_ignoresOrder _ _ _ _ _) inputs

/-! ### The whole -/

/-- **The order of a walk is canonical.** What a directory contributes strictly increases, component by component and
in the order of bytes, whatever stands below it. Another order of the listings gives the same inputs, or the same
failure, and so a batch comes to the same, tells the same, and leaves the same under every path. -/
theorem walk_order_canonical [Glob.Joining] {world : World} (hsound : world.files.tree.Sound) :
    (∀ sources pattern exclude inputs, ((collectInputs sources pattern exclude).outcome world).1 = .ok inputs →
      ∃ blocks, List.Forall₂ (fun source block => IsBlock pattern exclude world.files source block ∧
        block.Pairwise (ComesBefore source)) sources blocks ∧ blocks.flatten = inputs) ∧
    ∀ other, world.Relisted other →
      (∀ sources pattern exclude, ((collectInputs sources pattern exclude).outcome other).1 =
        ((collectInputs sources pattern exclude).outcome world).1) ∧
      ∀ engine batch options result left, (compileBatch engine batch options).outcome world = (result, left) →
        ∃ left', (compileBatch engine batch options).outcome other = (result, left') ∧ left.Relisted left' ∧
          ∀ path, left'.files.read? path = left.files.read? path := by
  refine ⟨fun sources pattern exclude inputs h => ?_, fun other hother => ⟨fun sources pattern exclude => ?_,
    fun engine batch options result left hrun => ?_⟩⟩
  · obtain ⟨excludes, hexclude, blocks, hblocks, rfl⟩ := (collectInputs_ok_iff hsound).mp h
    exact ⟨blocks, hblocks.imp fun source block hblock =>
      ⟨hblock.isBlock hsound hexclude, hblock.increasing hsound⟩, rfl⟩
  · exact (collectInputs_ignoresOrder sources pattern exclude world other hother).1
  · obtain ⟨hresult, hleft⟩ := compileBatch_ignoresOrder engine batch options world other hother
    rw [hrun] at hresult hleft
    exact ⟨((compileBatch engine batch options).outcome other).2, Prod.ext hresult rfl, hleft, hleft.files.read?⟩

/-- A directory with templates in it and in a directory `a` below it. In the order of paths as texts what stands
in `a` would come behind `a-b.hbs` and `a.hbs`. Two of the modules get one path. -/
def Sample.siblings : World :=
  Sample.worldWith [["d"], ["d", "a"]]
    [(["d", "b.hbs"], "1"), (["d", "a-b.hbs"], "2"), (["d", "a", "b.hbs"], "3"), (["d", "a.hbs"], "4")]

/-- The same files, the last listed first. -/
def Sample.siblingsBack : World :=
  {Sample.siblings with files := {Sample.siblings.files with tree := ⟨Sample.siblings.files.tree.entries.reverse⟩}}

theorem Sample.siblings_sound : Sample.siblings.files.tree.Sound := by decide +kernel

theorem Sample.siblings_relisted : Sample.siblings.Relisted Sample.siblingsBack :=
  ⟨⟨rfl, List.reverse_perm _, Sample.siblings_sound.once⟩, rfl⟩

theorem Sample.siblings_collected :
    ((collectInputs ["d"] Sample.pattern []).outcome Sample.siblings).1 =
      .ok ["d/a/b.hbs", "d/a-b.hbs", "d/a.hbs", "d/b.hbs"] := by
  have hsorted : Sample.siblings.files.tree.sortedListing ["d"] = [("a", .directory false),
      ("a-b.hbs", .file "2".toUTF8 false), ("a.hbs", .file "4".toUTF8 false), ("b.hbs", .file "1".toUTF8 false)] :=
    FileTree.sortedListing_eq Sample.siblings_sound (by decide +kernel) (by decide +kernel)
  have hheight : Sample.siblings.files.tree.height = 3 + 1 := by decide +kernel
  -- Sorting does not compute in the kernel, so the one long listing is put in sorted.
  have hwalk : (∀ step ∈ Sample.siblings.files.tree.walk ["d"] "d", step.names?.isSome = true) ∧
      Sample.siblings.files.tree.templatesIn Sample.pattern [] ["d"] "d" =
        [["a", "b.hbs"], ["a-b.hbs"], ["a.hbs"], ["b.hbs"]] := by
    rw [FileTree.templatesIn, FileTree.walk, hheight, FileTree.walkWithin, if_neg (by decide +kernel), hsorted]
    decide +kernel
  have hfind : Sample.siblings.files.find? "d" = some (["d"], .directory false) := by decide +kernel
  exact (collectInputs_walked Sample.siblings_sound hfind hwalk.1 hwalk.2).trans (by decide +kernel)

/-- The last of these templates writes the module that it shares with the first. -/
theorem Sample.compiled_siblings :
    ∃ result last, (compileBatch Sample.engine ⟨["d"], none, [], false⟩ Sample.options).outcome Sample.siblings =
        (result, last) ∧ last.files.read? "d/b.js" = some "1\n".toUTF8 := by
  obtain ⟨last, hrun, hfiles⟩ := @compileBatch_collected Sample.engine Sample.options
    ⟨["d"], none, [], false⟩ (Sample.setup 1 true) _ Sample.siblings _ rfl Sample.siblings_collected
  refine ⟨_, last, hrun, ?_⟩
  rw [hfiles]
  decide +kernel

/-- Both listings give the same inputs in the order of their components, and the same of them has written the module
that two of them share. -/
theorem walk_order_canonical_siblings :
    Sample.siblings.files.tree.Sound ∧ Sample.siblings.Relisted Sample.siblingsBack ∧
      (["d/a/b.hbs", "d/a-b.hbs", "d/a.hbs", "d/b.hbs"] : List Path).Pairwise (ComesBefore "d") ∧
      ((collectInputs ["d"] Sample.pattern []).outcome Sample.siblingsBack).1 =
        .ok ["d/a/b.hbs", "d/a-b.hbs", "d/a.hbs", "d/b.hbs"] ∧
      ∃ result last, (compileBatch Sample.engine ⟨["d"], none, [], false⟩ Sample.options).outcome
          Sample.siblingsBack = (result, last) ∧ last.files.read? "d/b.js" = some "1\n".toUTF8 := by
  obtain ⟨hinputs, hrelisted⟩ := walk_order_canonical Sample.siblings_sound
  obtain ⟨hcollect, hcompile⟩ := hrelisted Sample.siblingsBack Sample.siblings_relisted
  obtain ⟨result, last, hrun, hwritten⟩ := Sample.compiled_siblings
  obtain ⟨last', hrun', _, hread⟩ := hcompile _ _ _ result last hrun
  obtain ⟨blocks, hblocks, hflat⟩ := hinputs _ _ _ _ Sample.siblings_collected
  refine ⟨Sample.siblings_sound, Sample.siblings_relisted, ?_, ?_, result, last', hrun', ?_⟩
  · obtain ⟨block, _, ⟨_, hincreasing⟩, hnil, rfl⟩ := List.forall₂_cons_left_iff.mp hblocks
    rw [List.forall₂_nil_left_iff.mp hnil, List.flatten_cons, List.flatten_nil, List.append_nil] at hflat
    rwa [hflat] at hincreasing
  · rw [hcollect, Sample.siblings_collected]
  · rw [hread, hwritten]

end Precompiler
