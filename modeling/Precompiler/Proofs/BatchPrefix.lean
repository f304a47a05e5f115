import Precompiler.Proofs.Batches
import Precompiler.Proofs.Sample

/-! A failing batch is a prefix.

A batch stops at the first template that fails. What it leaves is what the templates before
leave, up to directories that the failing one has made; the lines that it has written tell of
just these templates; and what the engine rejects is blamed itself (`failing_batch`). Standard output
is not the batch's alone: a hook may print what it likes, such a line included
(`printed_line_of_hook`). -/
namespace Precompiler

variable {engine : Engine} {options : Options} {batch : Batch} {setup : Setup} {files : Files}
  {world left last : World} {before inputs : List Path} {compiled : List Compiled} {failure : Failure}

/-- What is printed for a compiled template: what the hook prints, and the line that tells of the
written module. -/
def Compiled.Prints (hook : Option Hook) (compiled : Compiled) (lines : List String) : Prop :=
  ∃ path ∈ compiled.output, ∃ own, PrintedBy hook own ∧ lines = own ++ [writtenLine compiled.input path]

theorem Batch.chain_prints (hdry : batch.dryRun = false)
    (h : Action.Chain (batch.compileOne engine options files setup) world inputs compiled last) :
    ∃ chunks, List.Forall₂ (Compiled.Prints options.postParse) compiled chunks ∧
      printed last.journal = printed world.journal ++ chunks.flatten := by
  induction h with
  | nil world => exact ⟨[], .nil, by simp⟩
  | @cons world left last input first rest more hfirst _ ih =>
    obtain ⟨chunks, hchunks, hprinted⟩ := ih
    obtain ⟨path, hpath⟩ := Batch.outputOf_eq_some hdry files setup input
    rw [Batch.compileOne, hpath] at hfirst
    obtain ⟨rfl, ⟨put, hcompiles⟩, own, hown, hleft⟩ := compileTemplate_ok hfirst
    refine ⟨(own ++ [writtenLine first.input path]) :: chunks,
      .cons ⟨path, hcompiles.output, own, hown, rfl⟩ hchunks, ?_⟩
    rw [hprinted, hleft, List.flatten_cons, List.append_assoc]

/-- Where the hook prints nothing, one line is printed for each compiled template. -/
theorem prints_silently {chunks : List (List String)}
    (hsilent : ∀ own ∈ options.postParse, ∀ ast, (own.apply ast).1 = [])
    (h : List.Forall₂ (Compiled.Prints options.postParse) compiled chunks) :
    chunks.flatten = compiled.map fun c => writtenLine c.input (c.output.getD "") := by
  induction h with
  | nil => rfl
  | @cons first chunk rest chunks hfirst _ ih =>
    obtain ⟨path, hpath, own, hown, rfl⟩ := hfirst
    rw [List.flatten_cons, ih, hown.eq_nil hsilent, List.map_cons, Option.mem_def.mp hpath]
    rfl

/-- **A failing batch is a prefix.** A batch whose first failing template is known fails as that
template does. The files are those that the templates before it leave, but for directories that
are new. Each template before it has its line, in order, and nothing else is printed but by the
hook. The failure is a report of rejection just if the template is rejected: by the engine, and then it
names the template's file, or by a hook that passes itself off as the engine, which no script can. -/
theorem failing_batch [Glob.Joining] {input : Path} {rest : List Path} (hdry : batch.dryRun = false)
    (hsetup : Setup.of options world.files batch.sources = .ok setup)
    (hinputs : ((collectInputs batch.sources setup.pattern batch.exclude).outcome world).1 =
      .ok (before ++ input :: rest))
    (hbefore : (before.mapM (batch.compileOne engine options world.files setup)).outcome world =
      (.ok compiled, left))
    (hfails : ((batch.compileOne engine options world.files setup input).outcome left).1 =
      .error failure) :
    compiled.map (·.input) = before ∧
      ∃ last, (compileBatch engine batch options).outcome world = (.error failure, last) ∧
        last.files.here = left.files.here ∧
        (∀ spot, last.files.tree.get? spot = left.files.tree.get? spot ∨
          left.files.tree.get? spot = none ∧ last.files.tree.get? spot = some (.directory false)) ∧
        (∃ chunks own, List.Forall₂ (Compiled.Prints options.postParse) compiled chunks ∧
          PrintedBy options.postParse own ∧
          printed last.journal = printed world.journal ++ chunks.flatten ++ own) ∧
        ((∀ own ∈ options.postParse, ∀ ast, (own.apply ast).1 = []) →
          printed last.journal = printed world.journal ++
            compiled.map fun c => writtenLine c.input (c.output.getD "")) ∧
        (∀ file message, failure = .compile file message ↔ ∃ source,
          textAt options.charset left.files input = .ok source ∧
            Rejection engine options input source file message) ∧
        ((∀ own ∈ options.postParse, own.IsHonest) →
          ∀ file message, failure = .compile file message → file = input) := by
  have hblind := batch.compileOne_blind engine options world.files setup
  obtain ⟨path, hpath⟩ := Batch.outputOf_eq_some hdry world.files setup input
  obtain ⟨events, hnotes, hgoes⟩ : (compileBatch engine batch options).Becomes world.files _ _ :=
    compileBatch_becomes hsetup hinputs
  -- The batch has notes in its journal when it comes to the templates; they make no difference.
  obtain ⟨middle, hmiddle⟩ :=
    (Action.Blind.mapM hblind before).outcome_eq hbefore (world.journal ++ events)
  obtain ⟨stopped, hstopped⟩ : ∃ stopped, (batch.compileOne engine options world.files setup
      input).outcome left = (.error failure, stopped) := ⟨_, Prod.ext hfails rfl⟩
  obtain ⟨more, hmore⟩ := (hblind input).outcome_eq hstopped middle
  have hchain := Action.outcome_mapM_ok_iff.mp hmiddle
  have hstops := Action.outcome_mapM_error_iff.mpr ⟨before, input, rest, compiled, _, rfl, hchain, hmore⟩
  rw [Batch.compileOne, hpath] at hmore
  obtain ⟨hwrites, ⟨own, hown, hlast⟩, hrejected⟩ := compileTemplate_error hmore
  obtain ⟨chunks, hchunks, hprinted⟩ := Batch.chain_prints hdry hchain
  have hall : printed more = printed world.journal ++ chunks.flatten ++ own := by
    rw [hlast, hprinted, printed_append, hnotes, List.append_nil]
  refine ⟨(Batch.run_of_chain hdry hchain).1, _, (hgoes world.journal).trans hstops, hwrites.changes.here,
    fun spot => hwrites.changes.kept spot rfl, ⟨chunks, own, hchunks, hown, hall⟩, fun hsilent => ?_,
    hrejected, fun hhook file message heq => ?_⟩
  · rw [hall, hown.eq_nil hsilent, List.append_nil, prints_silently hsilent hchunks]
  · obtain ⟨source, _, hreport⟩ := (hrejected file message).mp heq
    exact hreport.eq hhook

/-- Two templates beside which their modules go. -/
def Sample.pair : Batch := ⟨["a.hbs", "b.hbs"], none, [], false⟩

/-- The files of two templates, of which the engine rejects the second. -/
def Sample.pairWorld : World := Sample.world [(["a.hbs"], "A"), (["b.hbs"], "B")]

/-- The first template is written and told of, and the second is blamed. -/
theorem failing_batch_pair :
    ∃ last, (compileBatch Sample.engine Sample.pair Sample.options).outcome Sample.pairWorld =
        (.error (.compile "b.hbs" "unexpected B"), last) ∧
      printed last.journal = [writtenLine "a.hbs" "a.js"] := by
  have hsetup : Setup.of Sample.options Sample.pairWorld.files Sample.pair.sources =
      .ok (Sample.setup 2 false) := rfl
  have hinputs : ((collectInputs Sample.pair.sources (Sample.setup 2 false).pattern
      Sample.pair.exclude).outcome Sample.pairWorld).1 = .ok (["a.hbs"] ++ "b.hbs" :: []) := by
    decide +kernel
  have hbefore : ((["a.hbs"].mapM (Sample.pair.compileOne Sample.engine Sample.options
      Sample.pairWorld.files (Sample.setup 2 false))).outcome Sample.pairWorld).1 =
        .ok [⟨"a.hbs", some "a.js", "a", "A\n"⟩] := by
    decide +kernel
  have hfails : ((Sample.pair.compileOne Sample.engine Sample.options Sample.pairWorld.files
      (Sample.setup 2 false) "b.hbs").outcome ((["a.hbs"].mapM (Sample.pair.compileOne Sample.engine
        Sample.options Sample.pairWorld.files (Sample.setup 2 false))).outcome Sample.pairWorld).2).1 =
          .error (.compile "b.hbs" "unexpected B") := by
    decide +kernel
  obtain ⟨_, last, hrun, _, _, _, hlines, _⟩ :=
    failing_batch rfl hsetup hinputs (Prod.ext hbefore rfl) hfails
  exact ⟨last, hrun, (hlines fun own hown => by cases hown).trans (by decide)⟩

/-- A template beside a hook script. -/
def Sample.hookWorld : World :=
  Sample.world [(["a.hbs"], "A"), (["h.rhai"], "print(\"a.hbs > a.js\"); ()")]

/-- Options with the hook of a script. -/
def Sample.hookOptions : Options :=
  {Sample.options with postParse := (Hook.load Sample.hookWorld.files "h.rhai").toOption}

/-- The lines on standard output need not be the batch's: here no template has been compiled when the
batch fails, and the hook has printed the line of one. -/
theorem printed_line_of_hook :
    let run := (compileBatch Sample.engine ⟨["a.hbs"], none, [], false⟩ Sample.hookOptions).outcome
      Sample.hookWorld
    run.1 = .error (.postParse "h.rhai" "script did not return an AST") ∧
      run.2.files.exists? "a.js" = false ∧ printed run.2.journal = [writtenLine "a.hbs" "a.js"] := by
  decide +kernel

end Precompiler
