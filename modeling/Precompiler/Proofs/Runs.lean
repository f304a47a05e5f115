import Precompiler.Proofs.Templates

/-! Runs.

A *run* is the way of the files while templates are compiled one after another: each step
compiles one template and puts its module (`Run`). It puts contents at locations, in order, where
the output paths were open when their turn came (`Run.writes`, `Run.lands`). A template is read
after modules have been written; if none of them has taken its place, its module has the text that
it would have had in the beginning (`Run.moduleText`). -/
namespace Precompiler

variable {engine : Engine} {options : Options} {setup : Setup} {files before after : Files}
  {output : Path → Option Path} {compiled : List Compiled} {puts done : List (Location × ByteArray)}

/-- The way of the files while templates are compiled one after another, and what each of them
puts. -/
inductive Run (engine : Engine) (options : Options) (setup : Setup) (output : Path → Option Path) :
    Files → List Compiled → List (Location × ByteArray) → Files → Prop where
  | nil (files : Files) : Run engine options setup output files [] [] files
  | cons {before middle after : Files} {compiled : Compiled} {rest : List Compiled} {path : Path}
      {put : Location × ByteArray} {puts : List (Location × ByteArray)} :
      output compiled.input = some path →
      Compiles engine options setup path before middle compiled put →
      Run engine options setup output middle rest puts after →
      Run engine options setup output before (compiled :: rest) (put :: puts) after

/-! ### What a run puts -/

/-- The directories that the output of a compiled template may need. -/
def Compiled.above (compiled : Compiled) : List Path :=
  match compiled.output with
  | some path => (outputDirectory path).ancestors
  | none => []

theorem Run.writes (h : Run engine options setup output before compiled puts after) :
    Files.Writes puts (compiled.flatMap Compiled.above) before after := by
  induction h with
  | nil files => exact .refl _ _
  | @cons before middle after first rest path put puts _ hcompiles _ ih =>
    have habove : first.above = (outputDirectory path).ancestors := by
      rw [Compiled.above, hcompiles.output]
    have hfirst : Files.Writes [put] ((first :: rest).flatMap Compiled.above) before middle :=
      hcompiles.writes.mono fun p hp => by simp [habove, hp]
    exact hfirst.trans (ih.mono fun p hp => by simp [List.mem_flatMap.mp hp])

/-- A compiled template has put its module where its output path was open, at some time between
two states of the files. -/
structure Lands (charset : Charset) (path : Path) (before after : Files) (compiled : Compiled)
    (put : Location × ByteArray) : Prop where
  output : compiled.output = some path
  bytes : charset.encode compiled.text path = .ok put.2
  opened : ∃ made earlier later, Files.Changes earlier before made ∧ made.OpenTo path put.1 ∧
    Files.Changes (put :: later) made after

theorem Run.lands (h : Run engine options setup output before compiled puts after) :
    List.Forall₂ (fun compiled put => ∃ path, output compiled.input = some path ∧
      Lands options.charset path before after compiled put) compiled puts := by
  induction h with
  | nil files => exact .nil
  | @cons before middle after first rest path put puts hpath hcompiles hrest ih =>
    obtain ⟨made, hmade, hopen, hput⟩ := hcompiles.written
    have hmakes := Files.makeDirectories_writes before (outputDirectory path)
    rw [hmade] at hmakes
    refine .cons ⟨path, hpath, hcompiles.output, hcompiles.bytes, made, [], puts, hmakes.changes, hopen,
      (hput ▸ hopen.changes put.2).trans hrest.writes.changes⟩ (ih.imp ?_)
    rintro compiled other ⟨path, hpath, houtput, hbytes, made, earlier, later, hearlier, hopen, hlater⟩
    exact ⟨path, hpath, houtput, hbytes, made, _, later, hcompiles.writes.changes.trans hearlier, hopen,
      hlater⟩

/-- A compiled template has its module encoded at the location that its output path means. -/
def Compiled.IsPut (charset : Charset) (files : Files) (output : Path → Option Path)
    (compiled : Compiled) (put : Location × ByteArray) : Prop :=
  ∃ path, compiled.output = some path ∧ output compiled.input = some path ∧
    files.spotOf path = some put.1 ∧ charset.encode compiled.text path = .ok put.2

/-- Without links an output path means from the beginning where its module is put. -/
theorem Compiles.spotOf {path : Path} {compiled : Compiled} {put : Location × ByteArray}
    (h : Compiles engine options setup path before after compiled put)
    (hlinkless : before.tree.Linkless) : before.spotOf path = some put.1 := by
  obtain ⟨made, hmade, hopen, _⟩ := h.written
  have hmakes := Files.makeDirectories_writes before (outputDirectory path)
  rw [hmade] at hmakes
  rw [← Files.spotOf_congr hmakes.changes.here]
  exact hopen.spotOf (hmakes.changes.linkless hlinkless)

theorem Run.isPut (h : Run engine options setup output before compiled puts after)
    (hlinkless : before.tree.Linkless) :
    List.Forall₂ (Compiled.IsPut options.charset before output) compiled puts := by
  refine h.lands.imp ?_
  rintro compiled put ⟨path, hpath, hlands⟩
  obtain ⟨made, earlier, later, hearlier, hopen, _⟩ := hlands.opened
  refine ⟨path, hlands.output, hpath, ?_, hlands.bytes⟩
  rw [← Files.spotOf_congr hearlier.here]
  exact hopen.spotOf (hearlier.linkless hlinkless)

theorem Run.name (h : Run engine options setup output before compiled puts after) :
    ∀ c ∈ compiled, c.name = resolveName c.input options.root setup.pattern := by
  induction h with
  | nil files => simp
  | cons _ hcompiles _ ih => exact List.forall_mem_cons.mpr ⟨hcompiles.name, ih⟩

/-! ### What a run reads -/

/-- No output path of a template means the file of a later one. -/
def Apart (files : Files) (output : Path → Option Path) (inputs : List Path) : Prop :=
  inputs.Pairwise fun input later => ∀ path ∈ output input, files.spotOf path ≠ files.spotOf later

/-- What a run compiles it compiles from the files as they were before anything was put, if what is
put is apart from all templates to come. -/
theorem Run.moduleText (h : Run engine options setup output before compiled puts after)
    (hchanges : Files.Changes done files before) (hlinkless : files.tree.Linkless)
    (hreaches : ∀ c ∈ compiled, ∃ directory name, files.Reaches c.input directory name ∧
      lastPut (directory ++ [name]) done = none)
    (hapart : Apart files output (compiled.map (·.input))) :
    ∀ c ∈ compiled, moduleText engine options setup files c.input = .ok c.text := by
  induction h generalizing done with
  | nil files => simp
  | @cons before middle after first rest path put puts hpath hcompiles _ ih =>
    obtain ⟨⟨directory, name, hfirst, hdone⟩, hrests⟩ := List.forall_mem_cons.mp hreaches
    obtain ⟨hahead, hbehind⟩ := List.pairwise_cons.mp hapart
    have hread := hfirst.read?_eq hlinkless hchanges hdone
    refine List.forall_mem_cons.mpr ⟨(moduleText_congr hread).symm.trans hcompiles.text, ?_⟩
    refine ih (hchanges.trans hcompiles.writes.changes) (fun c hc => ?_) hbehind
    obtain ⟨directory, name, hreaches, hdone⟩ := hrests c hc
    -- What has just been put stands where the output path of its template means.
    have hput := hcompiles.spotOf (hchanges.linkless hlinkless)
    rw [Files.spotOf_congr hchanges.here] at hput
    have hne := hahead c.input (List.mem_map_of_mem hc) path hpath
    rw [hput, hreaches.spotOf hlinkless, ne_eq, Option.some.injEq, eq_comm] at hne
    exact ⟨directory, name, hreaches, by rw [lastPut_append, hdone, lastPut_singleton, if_neg hne]; rfl⟩

end Precompiler
