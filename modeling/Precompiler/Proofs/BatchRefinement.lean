import Precompiler.Proofs.Batches
import Precompiler.Proofs.Sample

/-! What a batch computes.

A batch reads a template after it has written the modules of the templates before it. If no
module takes the place of a template that is still to come, this makes no difference: every
module says what its template said in the beginning (`Run.moduleText`), and in the end each
location holds what was put there last (`compiled_batch`). What else is new are directories, and
an ancestor of an output path names each of them; such an ancestor need not be above the output
in the tree (`directory_beside_output`). -/
namespace Precompiler

variable {engine : Engine} {options : Options} {batch : Batch} {setup : Setup} {world last : World}
  {compiled : List Compiled}

/-- A batch whose modules take the place of no template that is still to come. -/
def Batch.IsApart [Glob.Joining] (batch : Batch) (options : Options) (world : World) : Prop :=
  ∀ setup inputs, Setup.of options world.files batch.sources = .ok setup →
    ((collectInputs batch.sources setup.pattern batch.exclude).outcome world).1 = .ok inputs →
    Apart world.files (batch.outputOf world.files setup) inputs

/-- A template is compiled from the files: the name is that of its path, and the text is put together
for the payload of its source. -/
structure CompiledFrom (engine : Engine) (options : Options) (setup : Setup) (files : Files)
    (template : Path) (compiled : Compiled) : Prop where
  input : compiled.input = template
  name : compiled.name = resolveName template options.root setup.pattern
  text : ∃ bytes source payload, files.read? template = some bytes ∧
    options.charset.decode bytes template = .ok source ∧
    (∀ world, ((compileSource engine template source options.postParse options.compilerOptions).outcome
      world).1 = .ok payload) ∧
    compiled.text = assemble compiled.name payload options setup.facts

/-! ### Whole batches -/

/-- **What a batch computes.** A batch that succeeds, and whose modules take the place of no template
to come, has compiled each template that is collected, in this order, from the files as they were in
the beginning. In the end each location holds the module that was put there last. Everywhere else
is what was there before, but for directories that are new, each named by an ancestor of an output
path. -/
theorem compiled_batch [Glob.Joining] (hsound : world.files.Sound) (hlinkless : world.files.tree.Linkless)
    (hdry : batch.dryRun = false) (hapart : batch.IsApart options world)
    (hrun : (compileBatch engine batch options).outcome world = (.ok compiled, last)) :
    ∃ setup inputs, Setup.of options world.files batch.sources = .ok setup ∧
      setup.facts = InputFacts.ofSources world.files batch.sources ∧
      ((collectInputs batch.sources setup.pattern batch.exclude).outcome world).1 = .ok inputs ∧
      List.Forall₂ (CompiledFrom engine options setup world.files) inputs compiled ∧
      ∃ puts, List.Forall₂ (Compiled.IsPut options.charset world.files
          (batch.outputOf world.files setup)) compiled puts ∧
        last.files.tree.Sound ∧ last.files.here = world.files.here ∧
        (∀ spot bytes, lastPut spot puts = some bytes →
          last.files.tree.get? spot = some (.file bytes false)) ∧
        ∀ spot, lastPut spot puts = none →
          last.files.tree.get? spot = world.files.tree.get? spot ∨
            world.files.tree.get? spot = none ∧
              last.files.tree.get? spot = some (.directory false) ∧
              ∃ above ∈ compiled.flatMap Compiled.above, world.files.spotOf above = some spot := by
  obtain ⟨setup, inputs, hsetup, hinputs, journal, hchain⟩ := compileBatch_ok hrun
  obtain ⟨rfl, puts, hway⟩ := Batch.run_of_chain hdry hchain
  have hwrites := hway.writes
  have htexts := hway.moduleText_of_collected hinputs hsound hlinkless (hapart setup _ hsetup hinputs)
  refine ⟨setup, _, hsetup, (Setup.of_eq_ok_iff.mp hsetup).2, hinputs, ?_, puts, hway.isPut hlinkless,
    hwrites.sound hsound.tree, hwrites.changes.here,
    fun spot bytes hput => (hwrites.changes.put spot bytes hput).1, fun spot hput => ?_⟩
  · refine List.forall₂_map_left_iff.mpr (List.forall₂_same.mpr fun c hc => ⟨rfl, hway.name c hc, ?_⟩)
    obtain ⟨bytes, source, payload, hread, hdecode, hpayload, htext⟩ := moduleText_ok_iff.mp (htexts c hc)
    refine ⟨bytes, source, payload, hread, hdecode, fun world => ?_, hway.name c hc ▸ htext⟩
    obtain ⟨_, _, events, _, houtcome⟩ := compileSource_comesTo engine c.input source options.postParse
      options.compilerOptions world.files
    exact (congrArg Prod.fst (houtcome world.journal)).trans hpayload
  · rcases hwrites.changes.kept spot hput with heq | ⟨hnone, hnew⟩
    · exact .inl heq
    · exact .inr ⟨hnone, hnew, hwrites.named hlinkless spot hput hnone (by simp [hnew])⟩

/-- Two templates that share an output file. -/
def Sample.bundle : Batch := ⟨["a.hbs", "c.hbs"], some "m.js", [], false⟩

/-- The files of these templates. -/
def Sample.bundleWorld : World := Sample.world [(["a.hbs"], "A"), (["c.hbs"], "C")]

theorem Sample.bundle_isApart : Sample.bundle.IsApart Sample.options Sample.bundleWorld := by
  have hsetup : Setup.of Sample.options Sample.bundleWorld.files Sample.bundle.sources =
      .ok (Sample.setup 2 false) := rfl
  have hinputs : ((collectInputs Sample.bundle.sources (Sample.setup 2 false).pattern
      Sample.bundle.exclude).outcome Sample.bundleWorld).1 = .ok ["a.hbs", "c.hbs"] := by
    decide +kernel
  intro setup inputs hsetup' hinputs'
  obtain rfl := Except.ok.inj (hsetup.symm.trans hsetup')
  obtain rfl := Except.ok.inj (hinputs.symm.trans hinputs')
  unfold Apart
  decide +kernel

theorem Sample.compiled_bundle : ((compileBatch Sample.engine Sample.bundle Sample.options).outcome
    Sample.bundleWorld).1 =
      .ok [⟨"a.hbs", some "m.js", "a", "A\n"⟩, ⟨"c.hbs", some "m.js", "c", "C\n"⟩] := by
  decide +kernel

/-- The shared file holds the module of the last template. -/
theorem compiled_batch_bundle :
    ∃ last, (compileBatch Sample.engine Sample.bundle Sample.options).outcome Sample.bundleWorld =
        (.ok [⟨"a.hbs", some "m.js", "a", "A\n"⟩, ⟨"c.hbs", some "m.js", "c", "C\n"⟩], last) ∧
      last.files.tree.get? ["m.js"] = some (.file "C\n".toUTF8 false) := by
  obtain ⟨last, hrun⟩ := Action.exists_outcome Sample.compiled_bundle
  obtain ⟨_, _, _, _, _, _, puts, hputs, _, _, hlast, _⟩ := compiled_batch (by decide +kernel)
    (FileTree.linkless_of_entries (by decide +kernel)) rfl Sample.bundle_isApart hrun
  refine ⟨last, hrun, ?_⟩
  obtain ⟨first, _, _, hrest, rfl⟩ := List.forall₂_cons_left_iff.mp hputs
  obtain ⟨second, _, ⟨path, hpath, _, hspot, hbytes⟩, hend, rfl⟩ :=
    List.forall₂_cons_left_iff.mp hrest
  obtain rfl := List.forall₂_nil_left_iff.mp hend
  obtain rfl := Option.some.inj hpath
  have hmeant : Sample.bundleWorld.files.spotOf "m.js" = some ["m.js"] := by decide +kernel
  have hencoded : Sample.options.charset.encode "C\n" "m.js" = .ok "C\n".toUTF8 := by decide +kernel
  obtain ⟨spot, bytes⟩ := second
  obtain rfl := Option.some.inj (hspot.symm.trans hmeant)
  obtain rfl := Except.ok.inj (hbytes.symm.trans hencoded)
  exact hlast _ _ (by simp [lastPut])

/-- An ancestor of an output path need not be above the output: the way to `t` goes through `out`
here, which is made. -/
theorem directory_beside_output :
    let run := (compileBatch Sample.engine ⟨["a.hbs"], some "out/../t/", [], false⟩ Sample.options).outcome
      (Sample.world [(["a.hbs"], "A")])
    run.1 = .ok [⟨"a.hbs", some "out/../t/a.js", "a", "A\n"⟩] ∧
      run.2.files.tree.get? ["t", "a.js"] = some (.file "A\n".toUTF8 false) ∧
      (Sample.files [(["a.hbs"], "A")]).tree.get? ["out"] = none ∧
      run.2.files.tree.get? ["out"] = some (.directory false) ∧ ¬["out"] <+: ["t", "a.js"] := by
  decide +kernel

end Precompiler
