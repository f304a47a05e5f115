import Precompiler.Batch
import Precompiler.Engine.Hook
import Precompiler.Proofs.Outputs

/-! Compiling one template.

The text of a module is a matter of the files alone (`moduleText`), and the rest is writing it.
So a template that is compiled has its text from the files as they were and puts it where its
output path is open (`compileTemplate_ok`, `Compiles`), and one that fails leaves directories at most
(`compileTemplate_error`). It is reported as rejected just if the engine rejects it, or a hook says so
(`payloadOf_rejected_iff`). On standard output either says nothing of its own but the line that
tells of a written module; whatever else is printed is printed by the hook. -/
namespace Precompiler

/-- The line that tells of a written module. -/
def writtenLine (input output : Path) : String := input ++ " > " ++ output ++ "\n"

/-! ### The payload -/

variable {engine : Engine} {options : Options} {setup : Setup} {hook : Option Hook}

/-- The payload of a source. -/
def payloadOf (engine : Engine) (file : Path) (source : String) (hook : Option Hook)
    (options : CompilerOptions) : Except Failure String := do
  let ast ← (engine.parse source).mapError (Failure.blaming file)
  let ast ← match hook with
    | none => pure ast
    | some hook => (hook.apply ast).2
  (engine.precompile ast options).mapError (Failure.blaming file)

/-- Lines that a hook prints: those for one tree, or none. -/
def PrintedBy (hook : Option Hook) (lines : List String) : Prop :=
  lines = [] ∨ ∃ own ∈ hook, ∃ ast, lines = (own.apply ast).1

/-- A hook that never prints prints no line. -/
theorem PrintedBy.eq_nil {lines : List String} (h : PrintedBy hook lines)
    (hsilent : ∀ own ∈ hook, ∀ ast, (own.apply ast).1 = []) : lines = [] := by
  rcases h with rfl | ⟨own, hown, ast, rfl⟩
  · rfl
  · exact hsilent own hown ast

/-- A source comes to its payload, and only the hook prints. -/
theorem compileSource_comesTo (engine : Engine) (file : Path) (source : String) (hook : Option Hook)
    (options : CompilerOptions) (files : Files) :
    ∃ lines, PrintedBy hook lines ∧ (compileSource engine file source hook options).ComesTo files
      (payloadOf engine file source hook options) lines := by
  have hbegin := Action.comesTo_logAll files (engine.parseNotes source)
  have hend : ∀ ast, (do
      Action.logAll (engine.precompileNotes ast options)
      Action.ofExcept ((engine.precompile ast options).mapError (Failure.blaming file))).ComesTo files
        ((engine.precompile ast options).mapError (Failure.blaming file)) [] := fun ast =>
    (Action.comesTo_logAll files _).bind (Action.comesTo_ofExcept files _)
  unfold compileSource payloadOf
  rcases (engine.parse source).mapError (Failure.blaming file) with failure | ast
  · exact ⟨[], .inl rfl, hbegin.bind (Action.comesTo_ofExcept files _).bind_error⟩
  have hast := Action.comesTo_ofExcept files (.ok ast : Except Failure Ast)
  cases hook with
  | none => exact ⟨[], .inl rfl, hbegin.bind (hast.bind (hend ast))⟩
  | some own =>
    refine ⟨(own.apply ast).1, .inr ⟨own, rfl, ast, rfl⟩, ?_⟩
    have htree := (Action.comesTo_ofExcept files (own.apply ast).2).silently hend
    exact .of_lines (hbegin.bind (hast.bind ((Action.comesTo_log files _).bind
      ((Action.comesTo_sayAll files _).bind htree)))) (by simp)

/-! ### The text of a module -/

/-- The text of a template. -/
def textAt (charset : Charset) (files : Files) (path : Path) : Except Failure String :=
  match files.read? path with
  | none => .error (.io (.reading path))
  | some bytes => charset.decode bytes path

theorem readText_comesTo (charset : Charset) (path : Path) (files : Files) :
    (readText charset path).ComesTo files (textAt charset files path) [] := by
  refine ⟨[], rfl, fun journal => ?_⟩
  rw [readText, Action.outcome_bind_ok (Action.outcome_files _), textAt]
  cases files.read? path <;> simp

/-- The text of the module of a template. -/
def moduleText (engine : Engine) (options : Options) (setup : Setup) (files : Files) (input : Path) :
    Except Failure String := do
  let source ← textAt options.charset files input
  let payload ← payloadOf engine input source options.postParse options.compilerOptions
  return assemble (resolveName input options.root setup.pattern) payload options setup.facts

/-- A module has a text if its template can be read and decoded, and its source has a payload. -/
theorem moduleText_ok_iff {files : Files} {input : Path} {text : String} :
    moduleText engine options setup files input = .ok text ↔
      ∃ bytes source payload, files.read? input = some bytes ∧
        options.charset.decode bytes input = .ok source ∧
        payloadOf engine input source options.postParse options.compilerOptions = .ok payload ∧
        text = assemble (resolveName input options.root setup.pattern) payload options setup.facts := by
  unfold moduleText textAt
  rcases files.read? input with _ | bytes
  · simp [bind, Except.bind]
  rcases hdecode : options.charset.decode bytes input with failure | source
  · simp [bind, Except.bind, hdecode]
  rcases hpayload : payloadOf engine input source options.postParse options.compilerOptions with
    failure | payload
  · simp [bind, Except.bind, hdecode, hpayload]
  · simp [bind, Except.bind, pure, Except.pure, hdecode, hpayload, eq_comm]

/-- A module has the same text wherever its template reads the same. -/
theorem moduleText_congr {files other : Files} {input : Path}
    (h : other.read? input = files.read? input) :
    moduleText engine options setup other input = moduleText engine options setup files input := by
  simp only [moduleText, textAt, h]

/-- A template whose module has no text changes nothing. -/
theorem compileTemplate_unwritten {files : Files} {input : Path} {failure : Failure}
    (h : moduleText engine options setup files input = .error failure) (output : Option Path) :
    ∃ lines, PrintedBy options.postParse lines ∧
      (compileTemplate engine options setup input output).ComesTo files (.error failure) lines := by
  have hread := readText_comesTo options.charset input files
  unfold moduleText at h
  rcases htext : textAt options.charset files input with other | source <;> rw [htext] at h hread
  · cases h
    exact ⟨[], .inl rfl, (Action.comesTo_log files _).bind hread.bind_error⟩
  · obtain ⟨lines, hlines, hsource⟩ := compileSource_comesTo engine input source options.postParse
      options.compilerOptions files
    rcases hpayload : payloadOf engine input source options.postParse options.compilerOptions with
      other | payload
    · rw [hpayload] at hsource
      simp only [bind, Except.bind, hpayload] at h
      cases h
      exact ⟨lines, hlines, (Action.comesTo_log files _).bind (hread.bind hsource.bind_error)⟩
    · simp [bind, Except.bind, hpayload, pure, Except.pure] at h

/-- What is left to do with the text of a module. -/
def deliver (charset : Charset) (input path : Path) (name text : String) : Action Compiled := do
  writeOutput charset path text
  sayWritten input path
  return ⟨input, some path, name, text⟩

/-- A template whose module has a text comes to writing it. -/
theorem compileTemplate_written {files : Files} {input : Path} {text : String}
    (h : moduleText engine options setup files input = .ok text) (path : Path) :
    ∃ lines, PrintedBy options.postParse lines ∧
      (compileTemplate engine options setup input (some path)).Becomes files lines
        (deliver options.charset input path (resolveName input options.root setup.pattern) text) := by
  have hread := readText_comesTo options.charset input files
  unfold moduleText at h
  rcases htext : textAt options.charset files input with other | source <;> rw [htext] at h hread
  · cases h
  obtain ⟨lines, hlines, hsource⟩ := compileSource_comesTo engine input source options.postParse
    options.compilerOptions files
  rcases hpayload : payloadOf engine input source options.postParse options.compilerOptions with
    other | payload
  · simp [bind, Except.bind, hpayload] at h
  rw [hpayload] at hsource
  simp only [bind, Except.bind, hpayload, pure, Except.pure, Except.ok.injEq] at h
  subst h
  refine ⟨[] ++ ([] ++ (lines ++ [])), by simpa using hlines, ?_⟩
  unfold compileTemplate
  exact (Action.comesTo_log files _).becomes (hread.becomes (hsource.becomes (.refl _ files)))

/-- What a template comes to whose module goes nowhere. -/
def previewOf (engine : Engine) (options : Options) (setup : Setup) (files : Files) (input : Path) :
    Except Failure Compiled := do
  let text ← moduleText engine options setup files input
  return ⟨input, none, resolveName input options.root setup.pattern, text⟩

/-- A template whose module goes nowhere changes no file, and only the hook prints. -/
theorem compileTemplate_previewed (files : Files) (input : Path) :
    ∃ lines, PrintedBy options.postParse lines ∧
      (compileTemplate engine options setup input none).ComesTo files
        (previewOf engine options setup files input) lines := by
  rcases htext : moduleText engine options setup files input with failure | text
  · rw [previewOf, htext]
    exact compileTemplate_unwritten htext none
  · obtain ⟨bytes, source, payload, hbytes, hdecode, hpayload, rfl⟩ := moduleText_ok_iff.mp htext
    have hread := readText_comesTo options.charset input files
    have hsource : textAt options.charset files input = .ok source := by
      rw [textAt, hbytes]
      exact hdecode
    obtain ⟨lines, hlines, hcompile⟩ := compileSource_comesTo engine input source options.postParse
      options.compilerOptions files
    rw [hsource] at hread
    rw [hpayload] at hcompile
    rw [previewOf, htext]
    refine ⟨lines, hlines, ?_⟩
    unfold compileTemplate
    refine .of_lines ((Action.comesTo_log files _).bind (hread.bind (hcompile.bind
      ((Action.Looks.pure _).comesTo ⟨files, []⟩)))) (by simp)

theorem compileTemplate_blind (engine : Engine) (options : Options) (setup : Setup) (input : Path)
    (output : Option Path) : (compileTemplate engine options setup input output).Blind := by
  refine (Action.Looks.log _).blind.bind fun _ => ?_
  refine (Action.blind_of_comesTo fun files => ⟨_, _, readText_comesTo _ _ files⟩).bind fun source => ?_
  refine (Action.blind_of_comesTo fun files => ?_).bind fun payload => ?_
  · obtain ⟨lines, _, h⟩ := compileSource_comesTo engine input source options.postParse
      options.compilerOptions files
    exact ⟨_, lines, h⟩
  · split
    · exact (Action.Looks.pure _).blind
    · exact (writeOutput_blind _ _ _).bind fun _ => (Action.Blind.record _).bind fun _ =>
        (Action.Looks.pure _).blind

/-! ### A template that is compiled -/

/-- A template is compiled: its module has a text from the files as they were, and it has been put
where the output path is open once the directories are made. -/
structure Compiles (engine : Engine) (options : Options) (setup : Setup) (path : Path)
    (before after : Files) (compiled : Compiled) (put : Location × ByteArray) : Prop where
  output : compiled.output = some path
  name : compiled.name = resolveName compiled.input options.root setup.pattern
  text : moduleText engine options setup before compiled.input = .ok compiled.text
  bytes : options.charset.encode compiled.text path = .ok put.2
  written : ∃ made, before.makeDirectories (outputDirectory path) = (made, .ok ()) ∧
    made.OpenTo path put.1 ∧ after = made.put put.1 (.file put.2 false)

variable {input path : Path} {world left : World} {compiled : Compiled} {failure : Failure}

theorem compileTemplate_ok
    (h : (compileTemplate engine options setup input (some path)).outcome world = (.ok compiled, left)) :
    compiled.input = input ∧
      (∃ put, Compiles engine options setup path world.files left.files compiled put) ∧
      ∃ lines, PrintedBy options.postParse lines ∧
        printed left.journal = printed world.journal ++ (lines ++ [writtenLine input path]) := by
  rcases htext : moduleText engine options setup world.files input with other | text
  · obtain ⟨_, _, events, _, hrun⟩ := compileTemplate_unwritten htext (some path)
    simp [hrun world.journal] at h
  obtain ⟨_, hlines, events, rfl, hrun⟩ := compileTemplate_written htext path
  rw [hrun world.journal, deliver, Action.outcome_bind] at h
  rcases hwrite : (writeOutput options.charset path text).outcome ⟨world.files, world.journal ++ events⟩
    with ⟨_ | _, after⟩ <;> rw [hwrite] at h
  · cases h
  · obtain ⟨bytes, made, goal, hbytes, hmade, hopen, rfl⟩ := writeOutput_ok_iff.mp hwrite
    cases h
    refine ⟨rfl, ⟨(goal, bytes), rfl, rfl, htext, hbytes, made, hmade, hopen, rfl⟩, printed events, hlines, ?_⟩
    show printed (world.journal ++ events ++ [.output (writtenLine input path)]) = _
    simp

theorem Compiles.outcome {before after : Files} {put : Location × ByteArray}
    (h : Compiles engine options setup path before after compiled put) (journal : List Event) :
    ∃ more, (compileTemplate engine options setup compiled.input (some path)).outcome ⟨before, journal⟩ =
      (.ok compiled, ⟨after, more⟩) := by
  obtain ⟨_, _, events, _, hrun⟩ := compileTemplate_written h.text path
  obtain ⟨made, hmade, hopen, rfl⟩ := h.written
  have hwrite : (writeOutput options.charset path compiled.text).outcome ⟨before, journal ++ events⟩ =
      (.ok (), ⟨made.put put.1 (.file put.2 false), journal ++ events⟩) :=
    writeOutput_ok_iff.mpr ⟨put.2, made, put.1, h.bytes, hmade, hopen, rfl⟩
  refine ⟨journal ++ events ++ [.output (writtenLine compiled.input path)], ?_⟩
  rw [hrun journal, deliver, Action.outcome_bind_ok hwrite, ← h.name, ← h.output]
  rfl

theorem Compiles.writes {before after : Files} {put : Location × ByteArray}
    (h : Compiles engine options setup path before after compiled put) :
    Files.Writes [put] (outputDirectory path).ancestors before after := by
  obtain ⟨made, hmade, hopen, rfl⟩ := h.written
  have hmakes := Files.makeDirectories_writes before (outputDirectory path)
  rw [hmade] at hmakes
  exact hmakes.trans (hopen.writes _ put.2)

/-! ### A template that is rejected -/

/-- The tree that is precompiled: the hook's, or the parsed one if there is no hook. -/
inductive Hooked : Option Hook → Ast → Ast → Prop where
  | plain (ast : Ast) : Hooked none ast ast
  | changed {own : Hook} {ast tree : Ast} : (own.apply ast).2 = .ok tree → Hooked (some own) ast tree

namespace Engine

/-- An engine rejects a template with a message, when it parses it or when it precompiles its tree. -/
inductive Rejects (engine : Engine) (source : String) (hook : Option Hook) (options : CompilerOptions)
    (message : String) : Prop where
  | parsing {own : String} : engine.parse source = .error (.compile own message) →
      Rejects engine source hook options message
  | precompiling {own : String} {ast tree : Ast} : engine.parse source = .ok ast → Hooked hook ast tree →
      engine.precompile tree options = .error (.compile own message) → Rejects engine source hook options message

end Engine

variable {file other : Path} {source message : String} {helpers : CompilerOptions}

theorem blamed_eq_error_iff {α : Type} {reply : Except Failure α} :
    reply.mapError (Failure.blaming file) = .error (.compile other message) ↔
      other = file ∧ ∃ own, reply = .error (.compile own message) := by
  rcases reply with failure | value
  · cases failure <;> simp [Except.mapError, Failure.blaming, eq_comm]
  · simp [Except.mapError]

theorem blamed_eq_ok_iff {α : Type} {reply : Except Failure α} {value : α} :
    reply.mapError (Failure.blaming file) = .ok value ↔ reply = .ok value := by
  cases reply <;> simp [Except.mapError]

/-- A hook that fails ends the compilation, and otherwise it goes on with the changed tree. -/
theorem hooked_eq_error_iff {ast : Ast} {next : Ast → Except Failure String} {failure : Failure} :
    (match hook with
      | none => pure ast >>= next
      | some own => (own.apply ast).2 >>= next) = .error failure ↔
      (∃ own ∈ hook, (own.apply ast).2 = .error failure) ∨
        ∃ tree, Hooked hook ast tree ∧ next tree = .error failure := by
  constructor
  · intro h
    cases hook with
    | none => exact .inr ⟨ast, .plain ast, h⟩
    | some own =>
      rcases Action.bind_eq_error_iff.mp h with hfails | ⟨tree, htree, hnext⟩
      · exact .inl ⟨own, rfl, hfails⟩
      · exact .inr ⟨tree, .changed htree, hnext⟩
  · rintro (⟨own, rfl, hfails⟩ | ⟨tree, htree, hnext⟩)
    · exact Action.bind_eq_error_iff.mpr (.inl hfails)
    · cases htree with
      | plain => exact hnext
      | changed hchanged => exact Action.bind_eq_error_iff.mpr (.inr ⟨tree, hchanged, hnext⟩)

/-- A template is reported as rejected just if the engine rejects it, and then under the name of its file.
Otherwise it is the hook that reports so. -/
theorem payloadOf_rejected_iff :
    payloadOf engine file source hook helpers = .error (.compile other message) ↔
      other = file ∧ engine.Rejects source hook helpers message ∨
        ∃ own ∈ hook, ∃ ast, engine.parse source = .ok ast ∧ (own.apply ast).2 = .error (.compile other message) := by
  have hsteps : payloadOf engine file source hook helpers = .error (.compile other message) ↔
      (engine.parse source).mapError (Failure.blaming file) = .error (.compile other message) ∨
        ∃ ast, (engine.parse source).mapError (Failure.blaming file) = .ok ast ∧
          ((∃ own ∈ hook, (own.apply ast).2 = .error (.compile other message)) ∨
            ∃ tree, Hooked hook ast tree ∧
              (engine.precompile tree helpers).mapError (Failure.blaming file) = .error (.compile other message)) :=
    Action.bind_eq_error_iff.trans (or_congr_right (exists_congr fun _ => and_congr_right fun _ =>
      hooked_eq_error_iff))
  rw [hsteps]
  simp only [blamed_eq_error_iff, blamed_eq_ok_iff]
  constructor
  · rintro (⟨rfl, own, hparse⟩ | ⟨ast, hparse, ⟨own, hown, hfails⟩ | ⟨tree, htree, rfl, own, hprecompile⟩⟩)
    · exact .inl ⟨rfl, .parsing hparse⟩
    · exact .inr ⟨own, hown, ast, hparse, hfails⟩
    · exact .inl ⟨rfl, .precompiling hparse htree hprecompile⟩
  · rintro (⟨rfl, hparse | ⟨hparse, htree, hprecompile⟩⟩ | ⟨own, hown, ast, hparse, hfails⟩)
    · exact .inl ⟨rfl, _, hparse⟩
    · exact .inr ⟨_, hparse, .inr ⟨_, htree, rfl, _, hprecompile⟩⟩
    · exact .inr ⟨ast, hparse, .inl ⟨own, hown, hfails⟩⟩

/-! ### A template that fails -/

/-- A hook does not pass its own failures off as the engine's. -/
def Hook.IsHonest (hook : Hook) : Prop :=
  ∀ ast file message, (hook.apply ast).2 ≠ .error (.compile file message)

/-- Hooks from scripts fail as hooks, in whatever language the scripts are. -/
theorem Hook.isHonest_ofScript (label : String) (script : HookScript) : (ofScript label script).IsHonest := by
  intro ast file message h
  change treeOf label (script ast).2 = _ at h
  rcases hgiven : (script ast).2 with text | _ | tree <;> rw [hgiven] at h <;> cases h

/-- What reports a template as rejected: the engine, whose report names the file of the template, or the hook,
which may name any. -/
inductive Rejection (engine : Engine) (options : Options) (input : Path) (source : String) :
    Path → String → Prop where
  | engine {message : String} : engine.Rejects source options.postParse options.compilerOptions message →
      Rejection engine options input source input message
  | hook {own : Hook} {ast : Ast} {file : Path} {message : String} : own ∈ options.postParse →
      engine.parse source = .ok ast → (own.apply ast).2 = .error (.compile file message) →
      Rejection engine options input source file message

/-- A report of an honest hook is the engine's. -/
theorem Rejection.eq (h : Rejection engine options input source file message)
    (hhook : ∀ own ∈ options.postParse, own.IsHonest) : file = input := by
  cases h with
  | engine _ => rfl
  | hook hown _ hfails => exact absurd hfails (hhook _ hown _ _ _)

theorem textAt_ne_compile {charset : Charset} {files : Files} :
    textAt charset files input ≠ .error (.compile file message) := by
  intro h
  unfold textAt Charset.decode at h
  split at h
  · cases h
  · split at h <;> cases h

theorem moduleText_rejected_iff {files : Files} :
    moduleText engine options setup files input = .error (.compile file message) ↔
      ∃ source, textAt options.charset files input = .ok source ∧ Rejection engine options input source file message := by
  have hpayload : ∀ source, payloadOf engine input source options.postParse options.compilerOptions =
      .error (.compile file message) ↔ Rejection engine options input source file message := by
    intro source
    rw [payloadOf_rejected_iff]
    constructor
    · rintro (⟨rfl, hrejects⟩ | ⟨own, hown, ast, hparse, hfails⟩)
      · exact .engine hrejects
      · exact .hook hown hparse hfails
    · rintro (hrejects | ⟨hown, hparse, hfails⟩)
      · exact .inl ⟨rfl, hrejects⟩
      · exact .inr ⟨_, hown, _, hparse, hfails⟩
  rw [moduleText, Action.bind_eq_error_iff, or_iff_right textAt_ne_compile]
  refine exists_congr fun source => and_congr_right fun _ => ?_
  rw [Action.bind_eq_error_iff, hpayload]
  simp [pure, Except.pure]

/-- A template that fails leaves directories at most and prints nothing of its own, and it is reported as
rejected just if it is. -/
theorem compileTemplate_error
    (h : (compileTemplate engine options setup input (some path)).outcome world = (.error failure, left)) :
    Files.Writes [] (outputDirectory path).ancestors world.files left.files ∧
      (∃ lines, PrintedBy options.postParse lines ∧
        printed left.journal = printed world.journal ++ lines) ∧
      ∀ file message, failure = .compile file message ↔ ∃ source,
        textAt options.charset world.files input = .ok source ∧ Rejection engine options input source file message := by
  have hreport := fun file message =>
    (moduleText_rejected_iff : moduleText engine options setup world.files input = .error (.compile file message) ↔ _)
  simp only [← hreport]
  rcases htext : moduleText engine options setup world.files input with other | text
  · obtain ⟨lines, hlines, events, heq, hrun⟩ := compileTemplate_unwritten htext (some path)
    rw [hrun world.journal] at h
    cases h
    exact ⟨.refl _ _, ⟨lines, hlines, by simp [heq]⟩, fun file message => by rw [Except.error.injEq]⟩
  obtain ⟨_, hlines, events, rfl, hrun⟩ := compileTemplate_written htext path
  rw [hrun world.journal, deliver, Action.outcome_bind] at h
  rcases hwrite : (writeOutput options.charset path text).outcome ⟨world.files, world.journal ++ events⟩
    with ⟨other | _, after⟩ <;> rw [hwrite] at h
  · cases h
    obtain ⟨hjournal, hwrites, hfailure⟩ := writeOutput_error hwrite
    refine ⟨hwrites, ⟨printed events, hlines, by simp [hjournal]⟩, fun file message => ?_⟩
    exact iff_of_false (hfailure file message) nofun
  · cases h

end Precompiler
