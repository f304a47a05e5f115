import Mathlib.Data.List.Nodup
import Precompiler.Proofs.Inputs
import Precompiler.Proofs.Sample

/-! What collecting gives.

Collecting succeeds if all patterns are well-formed and can be put together, all sources are there and
no walk gets stuck, and then it gives one block for each source (`collected_exactly`). That patterns
are well-formed does not say yet that they can be put together (`deep_patterns_not_collected`). The
block of a directory holds every template below it once and nothing else. A template is known by the
names that lead to it from the directory, whatever the directory is called: they end in a name with an
extension, and no pattern matches the path that they make up. What is led to by names is reached
through directories alone, so nothing behind a link counts. -/
namespace Precompiler

variable {pattern : ExtensionPattern} {excludes : Excludes} {exclude names : List String}
  {files : Files} {source : Path} {block : List Path}

/-! ### Exclude patterns -/

namespace Glob

/-- A written pattern is well-formed if it can be read. -/
def IsWellFormed (text : String) : Prop := ∃ glob, Pattern.ofText? text = some glob

/-- Written patterns are read one by one. -/
def Reads : List String → List Pattern → Prop :=
  List.Forall₂ fun text glob => Pattern.ofText? text = some glob

/-- What written patterns are read as can be put together into one set. -/
def AreJoinable [Joining] (exclude : List String) : Prop :=
  ∀ globs, Reads exclude globs → Joining.joins globs = true

theorem exists_reads_iff : (∃ globs, Reads exclude globs) ↔ ∀ text ∈ exclude, IsWellFormed text := by
  constructor
  · rintro ⟨globs, hreads⟩ text htext
    obtain ⟨glob, _, hread⟩ := Action.exists_of_forall₂ hreads.flip htext
    exact ⟨glob, hread⟩
  · exact fun h => Action.exists_forall₂ h

/-- Written patterns are read in one way. -/
theorem Reads.eq {globs others : List Pattern} (h : Reads exclude globs) (h' : Reads exclude others) :
    globs = others :=
  List.right_unique_forall₂' (fun _ _ _ hread hother => Option.some.inj (hread.symm.trans hother)) h h'

theorem Reads.areJoinable_iff [Joining] {globs : List Pattern} (h : Reads exclude globs) :
    AreJoinable exclude ↔ Joining.joins globs = true := by
  constructor
  · exact fun hjoinable => hjoinable globs h
  · intro hjoins others hothers
    rwa [hothers.eq h]

end Glob

/-- Some written pattern matches the path that names make up. -/
def IsExcluded (exclude names : List String) : Prop :=
  ∃ text ∈ exclude, ∃ glob, Glob.Pattern.ofText? text = some glob ∧
    glob.isMatch (Path.ofSegments names).toUTF8.toList = true

namespace Excludes

theorem readOne_eq_ok_iff {text : String} {glob : Glob.Pattern} :
    readOne text = .ok glob ↔ Glob.Pattern.ofText? text = some glob := by
  unfold readOne
  cases Glob.Pattern.ofText? text <;> simp

theorem readOne_eq_error_iff {text : String} {failure : Failure} :
    readOne text = .error failure ↔ ¬Glob.IsWellFormed text ∧ failure = .globPattern text := by
  unfold readOne Glob.IsWellFormed
  cases Glob.Pattern.ofText? text <;> simp [eq_comm]

variable [Glob.Joining]

theorem ofList_eq_ok_iff :
    ofList exclude = .ok excludes ↔ Glob.Reads exclude excludes ∧ Glob.Joining.joins excludes = true := by
  rw [ofList, Action.bind_eq_ok_iff]
  simp only [Action.mapM_eq_ok_iff, readOne_eq_ok_iff]
  constructor
  · rintro ⟨globs, hreads, h⟩
    split at h
    · cases h
    next hjoins =>
      cases h
      exact ⟨hreads, by simpa using hjoins⟩
  · rintro ⟨hreads, hjoins⟩
    refine ⟨excludes, hreads, ?_⟩
    rw [if_neg (by simpa using hjoins)]
    rfl

/-- Patterns can be used if each of them is well-formed and they can be put together. -/
theorem exists_ofList_iff : (∃ excludes, ofList exclude = .ok excludes) ↔
    (∀ text ∈ exclude, Glob.IsWellFormed text) ∧ Glob.AreJoinable exclude := by
  simp only [ofList_eq_ok_iff, ← Glob.exists_reads_iff]
  constructor
  · rintro ⟨excludes, hreads, hjoins⟩
    exact ⟨⟨excludes, hreads⟩, hreads.areJoinable_iff.mpr hjoins⟩
  · rintro ⟨⟨excludes, hreads⟩, hjoinable⟩
    exact ⟨excludes, hreads, hreads.areJoinable_iff.mp hjoinable⟩

/-- Patterns fail at the first that is not well-formed, or else together if they cannot be put together. -/
theorem ofList_eq_error_iff {failure : Failure} : ofList exclude = .error failure ↔
    (∃ before text after, exclude = before ++ text :: after ∧
        (∀ earlier ∈ before, Glob.IsWellFormed earlier) ∧ ¬Glob.IsWellFormed text ∧
        failure = .globPattern text) ∨
      (∀ text ∈ exclude, Glob.IsWellFormed text) ∧ ¬Glob.AreJoinable exclude ∧
        failure = .globPattern "<combined>" := by
  rw [ofList, Action.bind_eq_error_iff, Action.mapM_eq_error_iff]
  simp only [Action.mapM_eq_ok_iff, readOne_eq_ok_iff, readOne_eq_error_iff]
  refine or_congr Iff.rfl ⟨?_, ?_⟩
  · rintro ⟨globs, (hreads : Glob.Reads exclude globs), h⟩
    split at h
    next hapart =>
      cases h
      refine ⟨Glob.exists_reads_iff.mp ⟨globs, hreads⟩, ?_, rfl⟩
      rw [hreads.areJoinable_iff]
      simpa using hapart
    next => cases h
  · rintro ⟨hwell, hapart, rfl⟩
    obtain ⟨globs, hreads⟩ := Glob.exists_reads_iff.mpr hwell
    rw [hreads.areJoinable_iff, Bool.not_eq_true] at hapart
    refine ⟨globs, hreads, ?_⟩
    rw [hapart]
    rfl

theorem isMatch_iff (h : ofList exclude = .ok excludes) :
    excludes.isMatch names = true ↔ IsExcluded exclude names := by
  obtain ⟨hreads, _⟩ := ofList_eq_ok_iff.mp h
  rw [isMatch, List.any_eq_true]
  constructor
  · rintro ⟨glob, hglob, hmatch⟩
    obtain ⟨text, htext, hread⟩ := Action.exists_of_forall₂ hreads hglob
    exact ⟨text, htext, glob, hread, hmatch⟩
  · rintro ⟨text, htext, glob, hread, hmatch⟩
    obtain ⟨other, hother, hread'⟩ := Action.exists_of_forall₂ hreads.flip htext
    obtain rfl := Option.some.inj (hread.symm.trans hread')
    exact ⟨glob, hother, hmatch⟩

end Excludes

/-! ### Blocks -/

/-- Names lead from a directory to a template: a file below it, with one of the extensions, that no
pattern excludes. -/
structure FileTree.HasTemplate (tree : FileTree) (pattern : ExtensionPattern) (exclude : List String)
    (spot : Location) (names : List String) : Prop where
  below : names ≠ []
  isFile : ∃ content x, tree.get? (spot ++ names) = some (.file content x)
  named : ∃ name ∈ names.getLast?, ∃ e ∈ pattern.extensions, '.' :: e <:+ name.toList
  kept : ¬IsExcluded exclude names

/-- The block of a source: the source alone, if it is no directory, and otherwise the path of each
template below it once. -/
structure IsBlock (pattern : ExtensionPattern) (exclude : List String) (files : Files) (source : Path)
    (block : List Path) : Prop where
  alone : files.isDirectory source = false → block = [source]
  below : ∀ spot s, files.find? source = some (spot, .directory s) → block.Nodup ∧
    ∃ all : List (List String), all.Nodup ∧ block = all.map (walkPath source) ∧
      ∀ names, names ∈ all ↔ files.tree.HasTemplate pattern exclude spot names

/-- The walk of a source gets stuck nowhere, if it is a directory. -/
def IsWalkable (files : Files) (source : Path) : Prop :=
  ∀ spot s, files.find? source = some (spot, .directory s) →
    ∀ path, .unlisted path ∉ files.tree.walk spot source

/-- Different names make different paths. -/
theorem walkPath_inj {others : List String} (hnames : names ≠ []) (hothers : others ≠ [])
    (hname : ∀ name ∈ names, IsName name) (hother : ∀ name ∈ others, IsName name)
    (h : walkPath source names = walkPath source others) : names = others := by
  have hsegments := congrArg Path.segments h
  rw [segments_walkPath hnames hname, segments_walkPath hothers hother] at hsegments
  exact List.append_cancel_left hsegments

theorem isTemplate_iff [Glob.Joining] (h : Excludes.ofList exclude = .ok excludes) {entry : Entry} (hne : names ≠ []) :
    isTemplate pattern excludes names entry = true ↔
      entry.isFile = true ∧ (∃ name ∈ names.getLast?, ∃ e ∈ pattern.extensions, '.' :: e <:+ name.toList) ∧
        ¬IsExcluded exclude names := by
  obtain ⟨front, name, rfl⟩ : ∃ front name, names = front ++ [name] :=
    ⟨_, _, (List.dropLast_concat_getLast hne).symm⟩
  rw [← Excludes.isMatch_iff h]
  simp [isTemplate, ExtensionPattern.isMatch, ExtensionPattern.endsText_iff, and_assoc]

/-- The names that a walk gives are those of the templates, if the walk gets stuck nowhere. -/
theorem mem_templatesIn_iff_hasTemplate [Glob.Joining] (hsound : files.tree.Sound) {spot : Location} {s : Bool}
    (hfind : files.find? source = some (spot, .directory s))
    (hexclude : Excludes.ofList exclude = .ok excludes)
    (hwalk : ∀ path, .unlisted path ∉ files.tree.walk spot source) :
    names ∈ files.tree.templatesIn pattern excludes spot source ↔
      files.tree.HasTemplate pattern exclude spot names := by
  rw [FileTree.mem_templatesIn_iff hsound]
  constructor
  · rintro ⟨hne, _, entry, hget, htemplate⟩
    obtain ⟨hfile, hnamed, hkept⟩ := (isTemplate_iff hexclude hne).mp htemplate
    cases entry with
    | file content x => exact ⟨hne, ⟨content, x, hget⟩, hnamed, hkept⟩
    | link path => cases hfile
    | directory s => cases hfile
  · rintro ⟨hne, ⟨content, x, hget⟩, hnamed, hkept⟩
    have hway := FileTree.isWay_of_listed hsound ⟨s, Files.get?_of_find? hfind⟩ hwalk hget
    exact ⟨hne, hway, _, hget, (isTemplate_iff hexclude hne).mpr ⟨rfl, hnamed, hkept⟩⟩

theorem find?_ne_directory {spot other : Location} {entry : Entry} {s : Bool}
    (hfind : files.find? source = some (spot, entry)) (hentry : entry.isDirectory = false) :
    files.find? source ≠ some (other, .directory s) := by
  rw [hfind]
  rintro ⟨⟩
  cases hentry

/-- What a source contributes is its block. -/
theorem Contributes.isBlock [Glob.Joining] (hsound : files.tree.Sound)
    (hexclude : Excludes.ofList exclude = .ok excludes)
    (h : Contributes pattern excludes files source block) : IsBlock pattern exclude files source block := by
  cases h with
  | @alone spot entry hfind hentry =>
    exact ⟨fun _ => rfl, fun spot' s hdirectory => absurd hdirectory (find?_ne_directory hfind hentry)⟩
  | @below spot s hfind hwalk =>
    refine ⟨fun hnone => ?_, fun spot' s' hfind' => ?_⟩
    · simp [Files.isDirectory, hfind, Entry.isDirectory] at hnone
    obtain ⟨rfl, -⟩ := Prod.mk.inj (Option.some.inj (hfind.symm.trans hfind'))
    have hmem := fun names => @mem_templatesIn_iff_hasTemplate pattern excludes exclude names files source
      _ hsound spot s hfind hexclude hwalk
    have hnodup : (files.tree.templatesIn pattern excludes spot source).Nodup :=
      FileTree.templatesIn_nodup hsound
    refine ⟨hnodup.map_on fun names hnames others hothers heq => ?_, _, hnodup, rfl, hmem⟩
    obtain ⟨hne, ⟨_, _, hget⟩, _⟩ := (hmem names).mp hnames
    obtain ⟨hne', ⟨_, _, hget'⟩, _⟩ := (hmem others).mp hothers
    exact walkPath_inj hne hne' (hsound.above hget).1 (hsound.above hget').1 heq

/-- A source contributes something if it is there and its walk gets stuck nowhere. -/
theorem exists_contributes_iff :
    (∃ block, Contributes pattern excludes files source block) ↔
      files.exists? source = true ∧ IsWalkable files source := by
  constructor
  · rintro ⟨block, ⟨hfind, hentry⟩ | ⟨hfind, hwalk⟩⟩
    · exact ⟨by simp [Files.exists?, hfind], fun spot s hdirectory =>
        absurd hdirectory (find?_ne_directory hfind hentry)⟩
    · refine ⟨by simp [Files.exists?, hfind], fun spot s hfind' => ?_⟩
      obtain ⟨rfl, -⟩ := Prod.mk.inj (Option.some.inj (hfind.symm.trans hfind'))
      exact hwalk
  · rintro ⟨hexists, hwalk⟩
    obtain ⟨⟨spot, entry⟩, hfind⟩ := Option.isSome_iff_exists.mp hexists
    cases entry with
    | file content x => exact ⟨_, .alone hfind rfl⟩
    | link path => exact ⟨_, .alone hfind rfl⟩
    | directory s => exact ⟨_, .below hfind (hwalk spot s hfind)⟩

/-! ### Whole lists of sources -/

/-- **Collecting is exact.** It succeeds just if all patterns are well-formed and can be put together, all
sources are there and no walk gets stuck. Then it gives the blocks of the sources, one after another. -/
theorem collected_exactly [Glob.Joining] {sources : List Path} {world : World}
    (hsound : world.files.tree.Sound) :
    ((∃ inputs, ((collectInputs sources pattern exclude).outcome world).1 = .ok inputs) ↔
      (∀ text ∈ exclude, Glob.IsWellFormed text) ∧ Glob.AreJoinable exclude ∧
        (∀ source ∈ sources, world.files.exists? source = true) ∧
        ∀ source ∈ sources, IsWalkable world.files source) ∧
    ∀ inputs, ((collectInputs sources pattern exclude).outcome world).1 = .ok inputs →
      ∃ blocks, List.Forall₂ (IsBlock pattern exclude world.files) sources blocks ∧
        inputs = blocks.flatten := by
  simp only [collectInputs_ok_iff hsound]
  refine ⟨⟨?_, ?_⟩, ?_⟩
  · rintro ⟨inputs, excludes, hexclude, blocks, hblocks, -⟩
    obtain ⟨hwell, hjoinable⟩ := Excludes.exists_ofList_iff.mp ⟨excludes, hexclude⟩
    have hsources : ∀ source ∈ sources, world.files.exists? source = true ∧
        IsWalkable world.files source := fun source hsource => by
      obtain ⟨block, _, hblock⟩ := Action.exists_of_forall₂ hblocks.flip hsource
      exact exists_contributes_iff.mp ⟨block, hblock⟩
    exact ⟨hwell, hjoinable, fun source hsource => (hsources source hsource).1,
      fun source hsource => (hsources source hsource).2⟩
  · rintro ⟨hwell, hjoinable, hexist, hwalk⟩
    obtain ⟨excludes, hexclude⟩ := Excludes.exists_ofList_iff.mpr ⟨hwell, hjoinable⟩
    obtain ⟨blocks, hblocks⟩ := Action.exists_forall₂ fun source hsource =>
      exists_contributes_iff.mpr ⟨hexist source hsource, hwalk source hsource⟩
    exact ⟨_, excludes, hexclude, blocks, hblocks, rfl⟩
  · rintro inputs ⟨excludes, hexclude, blocks, hblocks, rfl⟩
    exact ⟨blocks, hblocks.imp fun source block hblock => hblock.isBlock hsound hexclude, rfl⟩

/-- Directories with a template in a directory that is named like one, with a link to a file, and with
a draft. -/
def Sample.mixedWorld : World :=
  ⟨⟨⟨[(["d"], .directory false), (["d", "x.hbs"], .directory false),
      (["d", "x.hbs", "a.handlebars"], .file "A".toUTF8 false), (["l"], .directory false),
      (["l", "b.hbs"], .link "../notes.txt"), (["s"], .directory false), (["s", "drafts"], .directory false),
      (["s", "drafts", "c.hbs"], .file "C".toUTF8 false), (["notes.txt"], .file "N".toUTF8 false)]⟩,
    some []⟩, []⟩

/-- One template is found in these directories, as often as its directory is a source. -/
theorem collected_mixed : Sample.mixedWorld.files.tree.Sound ∧
    ∃ blocks, List.Forall₂ (IsBlock Sample.pattern ["drafts/**"] Sample.mixedWorld.files)
        ["d", "notes.txt", "l", "s", "d"] blocks ∧
      ["d/x.hbs/a.handlebars", "notes.txt", "d/x.hbs/a.handlebars"] = blocks.flatten := by
  have hsound : Sample.mixedWorld.files.tree.Sound := by decide +kernel
  have hinputs : ((collectInputs ["d", "notes.txt", "l", "s", "d"] Sample.pattern ["drafts/**"]).outcome
      Sample.mixedWorld).1 = .ok ["d/x.hbs/a.handlebars", "notes.txt", "d/x.hbs/a.handlebars"] := by
    decide +kernel
  exact ⟨hsound, (collected_exactly hsound).2 _ hinputs⟩

/-- A pattern is read off its characters. -/
theorem Glob.ofText?_ofList (text : List Char) :
    Glob.Pattern.ofText? (String.ofList text) =
      match Glob.readWithin text.length ⟨[], [], none⟩ text with
      | some ⟨[], pieces, _⟩ => some pieces.reverse
      | _ => none := by
  show (match Glob.readWithin (String.ofList text).length ⟨[], [], none⟩ (String.ofList text).toList with
    | some ⟨[], pieces, _⟩ => some pieces.reverse
    | _ => none) = _
  rw [String.length_ofList, String.toList_ofList]

/-- A pattern of braces within braces. -/
def Sample.nestedPattern (depth : Nat) : String :=
  String.ofList (List.replicate depth '\x7b' ++ 'a' :: List.replicate depth '\x7d')

theorem Sample.length_nestedPattern (depth : Nat) : (Sample.nestedPattern depth).length = 2 * depth + 1 := by
  simp only [Sample.nestedPattern, String.length_ofList, List.length_append, List.length_cons,
    List.length_replicate]
  omega

/-- Braces can be read that nest too deep to be put together with other patterns. -/
theorem Sample.nestedPattern_tooDeep :
    ∃ glob, Glob.Pattern.ofText? (Sample.nestedPattern 260) = some glob ∧ glob.isTooDeep = true := by
  have hread := Glob.ofText?_ofList (List.replicate 260 '\x7b' ++ 'a' :: List.replicate 260 '\x7d')
  have hdeep : (Glob.Pattern.ofText? (Sample.nestedPattern 260)).map Glob.Pattern.isTooDeep = some true := by
    refine (congrArg (Option.map Glob.Pattern.isTooDeep) hread).trans ?_
    decide +kernel
  exact Option.map_eq_some_iff.mp hdeep

theorem Sample.wellFormed_nestedPattern : ∀ text ∈ [Sample.nestedPattern 260], Glob.IsWellFormed text := by
  obtain ⟨glob, hread, _⟩ := Sample.nestedPattern_tooDeep
  exact List.forall_mem_singleton.mpr ⟨glob, hread⟩

theorem Sample.not_areJoinable_nestedPattern : ¬Glob.AreJoinable [Sample.nestedPattern 260] := by
  obtain ⟨glob, hread, hdeep⟩ := Sample.nestedPattern_tooDeep
  have hreads : Glob.Reads [Sample.nestedPattern 260] [glob] := .cons hread .nil
  rw [hreads.areJoinable_iff]
  simp [Glob.Joining.joins, hdeep]

/-- A pattern that is well-formed can keep a source from being collected that is there and is no directory: it
nests too deep to be put together with others. -/
theorem deep_patterns_not_collected :
    (∀ text ∈ [Sample.nestedPattern 260], Glob.IsWellFormed text) ∧
      Sample.mixedWorld.files.exists? "notes.txt" = true ∧ IsWalkable Sample.mixedWorld.files "notes.txt" ∧
      ((collectInputs ["notes.txt"] Sample.pattern [Sample.nestedPattern 260]).outcome Sample.mixedWorld).1 =
        .error (.globPattern "<combined>") := by
  have hfind : Sample.mixedWorld.files.find? "notes.txt" = some (["notes.txt"], .file "N".toUTF8 false) := by
    decide +kernel
  have hfails : Excludes.ofList [Sample.nestedPattern 260] = .error (.globPattern "<combined>") :=
    Excludes.ofList_eq_error_iff.mpr
      (.inr ⟨Sample.wellFormed_nestedPattern, Sample.not_areJoinable_nestedPattern, rfl⟩)
  refine ⟨Sample.wellFormed_nestedPattern, by decide +kernel, fun spot s hdirectory => ?_, ?_⟩
  · exact absurd hdirectory (find?_ne_directory hfind rfl)
  · rw [collectInputs, hfails]
    rfl

end Precompiler
