import Precompiler.Proofs.Batches
import Precompiler.Proofs.Naming
import Precompiler.Proofs.Sample

/-! Sources beside their modules.

Without a destination every module goes into the directory of its template, or into the only
source (`outputOf_reaches`). So a file keeps its content unless it has the name of a module there
and is not the module already (`source_kept_iff`). Nothing asks whether it is a source itself: a
source that is named like the module of another is overwritten (`source_overwritten`). -/
namespace Precompiler

variable {engine : Engine} {options : Options} {batch : Batch} {setup : Setup} {world : World}
  {made : Files} {inputs : List Path} {input path : Path} {goal : Location}

/-- A compiled template has its module under the module's name in a directory, where the output path
leads. -/
def Compiled.Replaces (charset : Charset) (pattern : ExtensionPattern) (files : Files)
    (compiled : Compiled) (put : Location × ByteArray) : Prop :=
  ∃ path directory, compiled.output = some path ∧
    files.Reaches path directory (Destination.moduleName pattern compiled.input) ∧
    put.1 = directory ++ [Destination.moduleName pattern compiled.input] ∧
    charset.encode compiled.text path = .ok put.2

/-- Without a destination an output path is the path of a module in the only source, or beside the
template. -/
theorem outputOf_cases (hdry : batch.dryRun = false) (hdest : batch.dest = none)
    (hpath : batch.outputOf world.files setup input = some path) :
    (∃ source, world.files.isDirectory source = true ∧
        path = Path.join source (Destination.moduleName setup.pattern input)) ∨
      path = Path.withFileName input (Destination.moduleName setup.pattern input) := by
  rw [Batch.outputOf, Batch.destination, hdry, hdest, if_neg Bool.false_ne_true] at hpath
  rcases Destination.resolve_none world.files batch.sources with ⟨source, _, hsource, heq⟩ | heq
  · rw [heq] at hpath
    exact .inl ⟨source, hsource, (Option.some.inj hpath).symm⟩
  · rw [heq] at hpath
    exact .inr (Option.some.inj hpath).symm

/-- Without a destination an output path that is open later reaches the name of the module in a
directory from the beginning. -/
theorem outputOf_reaches [Glob.Joining] (hsound : world.files.Sound) (hdry : batch.dryRun = false)
    (hdest : batch.dest = none)
    (hinputs : ((collectInputs batch.sources setup.pattern batch.exclude).outcome world).1 = .ok inputs)
    (hinput : input ∈ inputs) (hpath : batch.outputOf world.files setup input = some path)
    (hopen : made.OpenTo path goal) :
    ∃ directory, world.files.Reaches path directory (Destination.moduleName setup.pattern input) := by
  obtain ⟨directory, name, hreaches, _⟩ := collected_reaches hsound hinputs hinput
  have hbare := Destination.moduleName_bare setup.pattern hreaches
  rcases outputOf_cases hdry hdest hpath with ⟨source, hsource, heq⟩ | heq <;> rw [heq] at hopen ⊢
  · obtain ⟨spot, s, hfind⟩ := Files.isDirectory_iff.mp hsource
    obtain ⟨hne, _⟩ := Files.resolve_eq_ok_iff.mp (Files.find?_eq_some_iff.mp hfind)
    have hsplits := Path.splits_join hne hbare
    obtain ⟨front, hsegments, _⟩ := hsplits.segments
    exact ⟨spot, Files.reaches_of_splits hsplits (hopen.named hsegments).1 hfind⟩
  · obtain ⟨front, _, _, hsegments, hstep, _⟩ := id hreaches
    have hmodule := Path.segments_withFileName hsegments hstep.speaks hstep.notUp hbare
    exact ⟨directory, hreaches.beside (hopen.named hmodule).1 hbare⟩

/-- Where a module lands is where its output path leads from the beginning. -/
theorem Lands.replaces {charset : Charset} {last : Files} {compiled : Compiled}
    {put : Location × ByteArray} {directory : Location}
    (h : Lands charset path world.files last compiled put)
    (hreaches : world.files.Reaches path directory (Destination.moduleName setup.pattern compiled.input)) :
    compiled.Replaces charset setup.pattern world.files put := by
  obtain ⟨made, earlier, later, hearlier, hopen, _⟩ := h.opened
  refine ⟨path, directory, h.output, hreaches, ?_, h.bytes⟩
  obtain ⟨target, hresolve, hspot⟩ := hopen.resolve
  obtain ⟨_, _, begin, hbegin, hleads⟩ := Files.resolve_eq_ok_iff.mp (hreaches.resolve hopen.usable)
  obtain ⟨_, _, begin', hbegin', hleads'⟩ := Files.resolve_eq_ok_iff.mp hresolve
  have hsame : begin' = begin := by
    rw [Files.start, hearlier.here] at hbegin'
    exact Option.some.inj (hbegin'.symm.trans hbegin)
  subst hsame
  rw [← hspot, hearlier.spot_eq hleads hleads', FileTree.targetAt_spot]

/-- **Which sources are kept.** Without a destination, whether a batch succeeds or fails, the file of a
template holds in the end what it held in the beginning exactly if the last module that has gone to
its place, if any has, is the very same. None has gone there unless the file has a module's
name. -/
theorem source_kept_iff [Glob.Joining] (hsound : world.files.Sound) (hdry : batch.dryRun = false)
    (hdest : batch.dest = none)
    (hsetup : Setup.of options world.files batch.sources = .ok setup)
    (hinputs : ((collectInputs batch.sources setup.pattern batch.exclude).outcome world).1 = .ok inputs) :
    ∃ puts, List.Forall₂ (Compiled.Replaces options.charset setup.pattern world.files)
        (Action.completed (batch.compileOne engine options world.files setup) inputs world) puts ∧
      ∀ input ∈ inputs, ∀ spot bytes x, world.files.find? input = some (spot, .file bytes x) →
        ((∃ x', ((compileBatch engine batch options).outcome world).2.files.tree.get? spot =
            some (.file bytes x')) ↔
          ∀ content, lastPut spot puts = some content → content = bytes) ∧
        ((∀ stem, spot.getLast? ≠ some (stem ++ ".js")) → lastPut spot puts = none) := by
  obtain ⟨hinput, puts, middle, hway, hrest⟩ :=
    @compileBatch_leaves engine _ _ _ _ _ _ hdry hsetup hinputs
  have hchanges := hway.writes.changes.trans hrest
  rw [List.append_nil] at hchanges
  have hmember : ∀ c ∈ Action.completed (batch.compileOne engine options world.files setup) inputs world,
      c.input ∈ inputs := fun c hc => hinput.subset (List.mem_map_of_mem hc)
  have hreplaces : List.Forall₂ (Compiled.Replaces options.charset setup.pattern world.files)
      (Action.completed (batch.compileOne engine options world.files setup) inputs world) puts := by
    refine ((List.forall₂_and_left _ _).mpr ⟨hmember, hway.lands⟩).imp ?_
    rintro compiled put ⟨hmem, path, hpath, hlands⟩
    obtain ⟨made, _, _, _, hopen, _⟩ := hlands.opened
    obtain ⟨directory, hreaches⟩ := outputOf_reaches hsound hdry hdest hinputs hmem hpath hopen
    exact hlands.replaces hreaches
  refine ⟨puts, hreplaces, fun input hinput spot bytes x hfind => ⟨?_, fun hname => ?_⟩⟩
  · have hget := Files.get?_of_find? hfind
    rcases hput : lastPut spot puts with _ | content
    · rcases hchanges.kept spot hput with heq | ⟨hnone, _⟩
      · simp [heq, hget]
      · simp [hget] at hnone
    · simp [(hchanges.put spot content hput).1]
  · refine lastPut_eq_none_iff.mpr fun put hput heq => ?_
    obtain ⟨c, _, _, directory, _, _, hspot, _⟩ := Action.exists_of_forall₂ hreplaces hput
    have hlast : spot.getLast? = some (Destination.moduleName setup.pattern c.input) := by
      rw [← heq, hspot, List.getLast?_concat]
    exact hname _ (hlast.trans (congrArg some (Destination.moduleName_eq _ _)))

/-- Two sources, of which the second has the name of the module of the first. -/
def Sample.clash : Batch := ⟨["a.hbs", "a.js"], none, [], false⟩

/-- The files of these sources. -/
def Sample.clashWorld : World := Sample.world [(["a.hbs"], "A"), (["a.js"], "J")]

/-- The first source has no module's name, and is kept. -/
theorem source_kept_clash :
    ∃ x, ((compileBatch Sample.engine Sample.clash Sample.options).outcome
      Sample.clashWorld).2.files.tree.get? ["a.hbs"] = some (.file "A".toUTF8 x) := by
  have hsetup : Setup.of Sample.options Sample.clashWorld.files Sample.clash.sources =
      .ok (Sample.setup 2 false) := rfl
  have hinputs : ((collectInputs Sample.clash.sources (Sample.setup 2 false).pattern
      Sample.clash.exclude).outcome Sample.clashWorld).1 = .ok ["a.hbs", "a.js"] := by
    decide +kernel
  have hfind : Sample.clashWorld.files.find? "a.hbs" = some (["a.hbs"], .file "A".toUTF8 false) := by
    decide +kernel
  have hname : ∀ stem, ["a.hbs"].getLast? ≠ some (stem ++ ".js") := fun stem heq => by
    have hend := congrArg (fun name => name.toList.reverse[1]?) (Option.some.inj heq)
    simp [String.toList_append] at hend
  have hsound : Sample.clashWorld.files.Sound := by decide +kernel
  obtain ⟨puts, _, hkept⟩ := @source_kept_iff Sample.engine _ _ _ _ _ _ hsound rfl rfl hsetup hinputs
  obtain ⟨hiff, hnone⟩ := hkept "a.hbs" (by simp) _ _ _ hfind
  exact hiff.mpr fun content hput => by simp [hnone hname] at hput

/-- A source that has the name of the module of another is overwritten. -/
theorem source_overwritten :
    let run := (compileBatch Sample.engine Sample.clash Sample.options).outcome Sample.clashWorld
    run.1 = .ok [⟨"a.hbs", some "a.js", "a", "A\n"⟩, ⟨"a.js", some "a.js.js", "a.js", "A\n\n"⟩] ∧
      Sample.clashWorld.files.read? "a.js" = some "J".toUTF8 ∧
      run.2.files.read? "a.js" = some "A\n".toUTF8 := by
  decide +kernel

end Precompiler
