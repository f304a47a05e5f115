import Precompiler.Proofs.Collected
import Precompiler.Proofs.Batches

/-! Names below a root.

The root is compared with a path as a text, and the extension is looked for in all that it leaves of
the path. Neither goes wrong for what is collected from a directory that is the root itself. The paths of
its walk are its own path, a separator and the names below it (`walkPath_eq`), so the root comes off
(`belowRoot_append`). Where no extension has a separator in it, only the last name loses one
(`stem_append`), and it loses the longest that it has (`cuts_of_isMatch`). What is left says where a
template is and what its file is called without the extension, so templates have one name only if they differ
in their extensions alone (`rooted_names`). -/
namespace Precompiler

/-! ### The extension of a name -/

namespace ExtensionPattern

variable {p : ExtensionPattern} {text : List Char}

/-- A name is cut before its extension: the longest entry of the list that ends it after a dot. -/
structure Cuts (p : ExtensionPattern) (name stem : String) (extension : List Char) : Prop where
  entry : extension ∈ p.extensions
  whole : name = stem ++ "." ++ String.ofList extension
  longest : ∀ other ∈ p.extensions, '.' :: other <:+ name.toList → other.length ≤ extension.length

/-- What has an extension is its stem and the longest extension that it has. -/
theorem stem_append_extension (h : p.endsText text = true) :
    ∃ e ∈ p.extensions, text = p.stem text ++ '.' :: e ∧
      ∀ other ∈ p.extensions, '.' :: other <:+ text → other.length ≤ e.length := by
  induction text with
  | nil => cases h
  | cons c rest ih =>
    rw [stem]
    split
    next hdotted =>
      obtain ⟨e, he, htext⟩ := isDotted_iff.mp hdotted
      refine ⟨e, he, htext, fun other _ hother => ?_⟩
      rw [htext] at hother
      exact Nat.le_of_succ_le_succ hother.length_le
    next hdotted =>
      rw [endsText, Bool.or_eq_true, or_iff_right hdotted] at h
      obtain ⟨e, he, hrest, hlongest⟩ := ih h
      refine ⟨e, he, congrArg (c :: ·) hrest, fun other hentry hother => ?_⟩
      rcases List.suffix_cons_iff.mp hother with heq | hother
      · exact absurd (isDotted_iff.mpr ⟨other, hentry, heq.symm⟩) hdotted
      · exact hlongest other hentry hother

/-- A name that is recognised is cut before its extension. -/
theorem cuts_of_isMatch {name : String} (h : p.isMatch name = true) :
    ∃ extension, p.Cuts name (p.strip name) extension := by
  obtain ⟨e, he, hwhole, hlongest⟩ := stem_append_extension h
  refine ⟨e, he, ?_, hlongest⟩
  rw [← String.toList_inj, strip]
  simpa using hwhole

/-- An extension without a separator is looked for behind the last one only. -/
theorem stem_append (hbare : ∀ e ∈ p.extensions, '/' ∉ e) (before : List Char) :
    p.stem (before ++ '/' :: text) = before ++ '/' :: p.stem text := by
  have hdotted : ∀ rest : List Char, '/' ∈ rest → p.isDotted rest = false := by
    intro rest hslash
    rw [Bool.eq_false_iff]
    intro hdotted
    obtain ⟨e, he, rfl⟩ := isDotted_iff.mp hdotted
    exact hbare e he (by simpa using hslash)
  induction before with
  | nil => rw [List.nil_append, stem, hdotted _ List.mem_cons_self]; rfl
  | cons c before ih => rw [List.cons_append, stem, hdotted _ (by simp), ih]; rfl

/-- Of names only the last loses its extension. -/
theorem stem_ofSegments (hbare : ∀ e ∈ p.extensions, '/' ∉ e) (front : List String) (name : String) :
    String.ofList (p.stem (Path.ofSegments (front ++ [name])).toList) =
      Path.ofSegments (front ++ [p.strip name]) := by
  rw [← String.toList_inj, String.toList_ofList]
  cases front with
  | nil => simp [Path.ofSegments, strip]
  | cons first rest =>
    rw [Path.ofSegments_concat (List.cons_ne_nil first rest), Path.ofSegments_concat (List.cons_ne_nil first rest)]
    simpa [strip] using stem_append hbare (Path.ofSegments (first :: rest)).toList

theorem strip_bare {name : String} (h : '/' ∉ name.toList) : '/' ∉ (p.strip name).toList := by
  rw [strip, String.toList_ofList]
  exact fun hmem => h ((p.stem_isPrefix name.toList).subset hmem)

end ExtensionPattern

/-! ### The root of a path -/

variable {pattern : ExtensionPattern} {exclude names front : List String} {d input other : Path}
  {files : Files} {name : String}

theorem dropLeading_append (lead rest : List Char) : dropLeading lead (lead ++ rest) = some rest := by
  induction lead with
  | nil => rfl
  | cons c lead ih => rw [List.cons_append, dropLeading, if_pos rfl, ih]

/-- A root comes off a path that goes on behind it. -/
theorem belowRoot_append (hroot : d ≠ "") (rest : String) :
    belowRoot (some d) (d ++ "/" ++ rest).toList = rest.toList := by
  have hpath : (d ++ "/" ++ rest).toList = (d.toList ++ ['/']) ++ rest.toList := by simp
  have hlead : d.toList ≠ [] := by simpa using hroot
  rw [belowRoot, hpath]
  split
  next hnil => exact absurd hnil hlead
  next => rw [dropLeading_append, Option.getD_some]

/-- What is below a directory has its path, a separator and the names that lead there as its path. -/
theorem walkPath_eq (hroot : d ≠ "") (hend : d.toList.getLast? ≠ some '/') (hne : names ≠ [])
    (hnames : ∀ name ∈ names, IsName name) : walkPath d names = d ++ "/" ++ Path.ofSegments names := by
  have hbare : d.bareSegments = d.segments := by
    rw [Path.bareSegments_eq, if_neg (by simp [hroot, hend])]
  have hsegments : (walkPath d names).segments = (d ++ "/" ++ Path.ofSegments names).segments := by
    rw [segments_walkPath hne hnames, hbare, Path.segments_append,
      Path.segments_ofSegments hne fun name hname => (hnames name hname).bare]
  rw [← Path.ofSegments_segments (walkPath d names), hsegments, Path.ofSegments_segments]

/-! ### What is collected from one source -/

/-- Paths are what a source alone gives. -/
def IsCollectedFrom [Glob.Joining] (pattern : ExtensionPattern) (exclude : List String) (world : World) (source : Path)
    (block : List Path) : Prop :=
  ((collectInputs [source] pattern exclude).outcome world).1 = .ok block

theorem isCollectedFrom_iff [Glob.Joining] {world : World} {source : Path} {block : List Path}
    (hsound : world.files.tree.Sound) : IsCollectedFrom pattern exclude world source block ↔
      ∃ excludes, Excludes.ofList exclude = .ok excludes ∧
        Contributes pattern excludes world.files source block := by
  rw [IsCollectedFrom, collectInputs_ok_iff hsound]
  simp only [List.forall₂_cons_left_iff, List.forall₂_nil_left_iff]
  refine exists_congr fun excludes => and_congr_right fun _ => ⟨?_, fun h => ⟨[block], ⟨block, [], h, rfl, rfl⟩, ?_⟩⟩
  · rintro ⟨_, ⟨own, _, hown, rfl, rfl⟩, rfl⟩
    simpa using hown
  · simp

/-- A path is that of a template below a directory: names lead from the directory to a file, and its name
has one of the extensions. -/
structure IsBelow (pattern : ExtensionPattern) (files : Files) (d input : Path) (front : List String)
    (name : String) : Prop where
  path : input = d ++ "/" ++ Path.ofSegments (front ++ [name])
  names : ∀ n ∈ front ++ [name], IsName n
  isFile : ∃ spot s content x, files.find? d = some (spot, .directory s) ∧
    files.tree.get? (spot ++ (front ++ [name])) = some (.file content x)
  isMatch : pattern.isMatch name = true

/-- Whatever is collected from a directory is below it. -/
theorem IsCollectedFrom.isBelow [Glob.Joining] {world : World} {block : List Path} (hsound : world.files.tree.Sound)
    (hdirectory : world.files.isDirectory d = true) (hend : d.toList.getLast? ≠ some '/')
    (h : IsCollectedFrom pattern exclude world d block) (hinput : input ∈ block) :
    ∃ front name, IsBelow pattern world.files d input front name := by
  obtain ⟨excludes, hexclude, hcontributes⟩ := (isCollectedFrom_iff hsound).mp h
  obtain ⟨spot, s, hfind⟩ := Files.isDirectory_iff.mp hdirectory
  obtain ⟨_, all, _, rfl, hall⟩ := (hcontributes.isBlock hsound hexclude).below spot s hfind
  obtain ⟨names, hnames, rfl⟩ := List.mem_map.mp hinput
  obtain ⟨hne, ⟨content, x, hget⟩, ⟨name, hlast, hnamed⟩, _⟩ := (hall names).mp hnames
  obtain ⟨front, rfl⟩ := List.getLast?_eq_some_iff.mp hlast
  have hroot : d ≠ "" := (Files.resolve_eq_ok_iff.mp (Files.find?_eq_some_iff.mp hfind)).1
  have habove := (hsound.above hget).1
  exact ⟨front, name, walkPath_eq hroot hend hne habove, habove, ⟨spot, s, content, x, hfind, hget⟩,
    ExtensionPattern.endsText_iff.mpr hnamed⟩

/-- Below its root a template is named after the names that lead to it, the last without its
extension. -/
theorem IsBelow.resolveName_eq (hbare : ∀ e ∈ pattern.extensions, '/' ∉ e)
    (h : IsBelow pattern files d input front name) :
    resolveName input (some d) pattern = Path.ofSegments (front ++ [pattern.strip name]) := by
  obtain ⟨spot, s, _, _, hfind, _⟩ := h.isFile
  have hroot : d ≠ "" := (Files.resolve_eq_ok_iff.mp (Files.find?_eq_some_iff.mp hfind)).1
  rw [h.path, resolveName, belowRoot_append hroot, ExtensionPattern.stem_ofSegments hbare]

/-- Names that make up one path are the same. -/
theorem ofSegments_concat_inj {others : List String} {stem otherStem : String}
    (hfront : ∀ n ∈ front, '/' ∉ n.toList) (hstem : '/' ∉ stem.toList)
    (hothers : ∀ n ∈ others, '/' ∉ n.toList) (hotherStem : '/' ∉ otherStem.toList)
    (h : Path.ofSegments (front ++ [stem]) = Path.ofSegments (others ++ [otherStem])) :
    front = others ∧ stem = otherStem := by
  have hsegments := congrArg Path.segments h
  have hall : ∀ {front : List String} {stem : String}, (∀ n ∈ front, '/' ∉ n.toList) →
      '/' ∉ stem.toList → ∀ n ∈ front ++ [stem], '/' ∉ n.toList := by
    intro front stem hfront hstem n hn
    rcases List.mem_append.mp hn with hn | hn
    · exact hfront n hn
    · exact List.mem_singleton.mp hn ▸ hstem
  rw [Path.segments_ofSegments (by simp) (hall hfront hstem),
    Path.segments_ofSegments (by simp) (hall hothers hotherStem)] at hsegments
  simpa using List.append_inj' hsegments rfl

/-- Templates below their root have one name only if the same names lead to their directory and their
files are called the same up to the extension. -/
theorem IsBelow.eq_of_resolveName_eq {others : List String} {otherName : String}
    (hbare : ∀ e ∈ pattern.extensions, '/' ∉ e) (h : IsBelow pattern files d input front name)
    (hother : IsBelow pattern files d other others otherName)
    (heq : resolveName input (some d) pattern = resolveName other (some d) pattern) :
    front = others ∧ pattern.strip name = pattern.strip otherName := by
  have hsep : ∀ {input front name}, IsBelow pattern files d input front name →
      (∀ n ∈ front, '/' ∉ n.toList) ∧ '/' ∉ (pattern.strip name).toList := fun h =>
    ⟨fun n hn => (h.names n (List.mem_append_left _ hn)).bare,
      ExtensionPattern.strip_bare (h.names _ (by simp)).bare⟩
  rw [h.resolveName_eq hbare, hother.resolveName_eq hbare] at heq
  exact ofSegments_concat_inj (hsep h).1 (hsep h).2 (hsep hother).1 (hsep hother).2 heq

/-! ### The names of templates -/

/-- A compiled template has the name of its path. -/
theorem compileTemplate_name {engine : Engine} {options : Options} {setup : Setup} {output : Option Path}
    {world left : World} {compiled : Compiled}
    (h : (compileTemplate engine options setup input output).outcome world = (.ok compiled, left)) :
    compiled.name = resolveName input options.root setup.pattern := by
  cases output with
  | some path =>
    obtain ⟨rfl, ⟨put, hcompiles⟩, _⟩ := compileTemplate_ok h
    exact hcompiles.name
  | none =>
    obtain ⟨_, _, events, _, hrun⟩ := @compileTemplate_previewed engine options setup world.files input
    rw [hrun world.journal] at h
    obtain ⟨text, _, hcompiled⟩ := Action.bind_eq_ok_iff.mp (Prod.mk.inj h).1
    cases hcompiled
    rfl

/-- **Names below a root are relative paths.** What is collected is collected from the sources one after
another. A template from a directory that is the root is called after the names that lead to it from there,
the last without its extension. Two templates from it have one name only if they are in one directory and
their files are called the same but for the extensions. -/
theorem rooted_names [Glob.Joining] {sources inputs : List Path} {world : World} (hsound : world.files.tree.Sound)
    (hdirectory : world.files.isDirectory d = true) (hend : d.toList.getLast? ≠ some '/')
    (hbare : ∀ e ∈ pattern.extensions, '/' ∉ e)
    (hinputs : ((collectInputs sources pattern exclude).outcome world).1 = .ok inputs) :
    ∃ blocks, List.Forall₂ (IsCollectedFrom pattern exclude world) sources blocks ∧
      blocks.flatten = inputs ∧ ∀ block, IsCollectedFrom pattern exclude world d block →
        (∀ input ∈ block, ∃ front name stem extension,
          IsBelow pattern world.files d input front name ∧ pattern.Cuts name stem extension ∧
          resolveName input (some d) pattern = Path.ofSegments (front ++ [stem]) ∧
          ∀ engine options facts output before compiled left, options.root = some d →
            (compileTemplate engine options ⟨pattern, facts⟩ input output).outcome before =
              (.ok compiled, left) → compiled.name = Path.ofSegments (front ++ [stem])) ∧
        ∀ input ∈ block, ∀ other ∈ block, input ≠ other →
          resolveName input (some d) pattern = resolveName other (some d) pattern →
          ∃ front name otherName stem extension otherExtension,
            IsBelow pattern world.files d input front name ∧
            IsBelow pattern world.files d other front otherName ∧
            pattern.Cuts name stem extension ∧ pattern.Cuts otherName stem otherExtension ∧
            extension ≠ otherExtension := by
  obtain ⟨excludes, hexclude, blocks, hblocks, hflat⟩ := (collectInputs_ok_iff hsound).mp hinputs
  refine ⟨blocks, hblocks.imp fun source block hblock => (isCollectedFrom_iff hsound).mpr
    ⟨excludes, hexclude, hblock⟩, hflat, fun block hblock => ⟨fun input hinput => ?_, ?_⟩⟩
  · obtain ⟨front, name, hbelow⟩ := hblock.isBelow hsound hdirectory hend hinput
    obtain ⟨extension, hcuts⟩ := ExtensionPattern.cuts_of_isMatch hbelow.isMatch
    have hname := hbelow.resolveName_eq hbare
    refine ⟨front, name, _, extension, hbelow, hcuts, hname, ?_⟩
    intro engine options facts output before compiled left hroot hrun
    rw [compileTemplate_name hrun, hroot, hname]
  · intro input hinput other hother hne heq
    obtain ⟨front, name, hbelow⟩ := hblock.isBelow hsound hdirectory hend hinput
    obtain ⟨others, otherName, hbelow'⟩ := hblock.isBelow hsound hdirectory hend hother
    obtain ⟨extension, hcuts⟩ := ExtensionPattern.cuts_of_isMatch hbelow.isMatch
    obtain ⟨otherExtension, hcuts'⟩ := ExtensionPattern.cuts_of_isMatch hbelow'.isMatch
    obtain ⟨rfl, hstem⟩ := hbelow.eq_of_resolveName_eq hbare hbelow' heq
    rw [← hstem] at hcuts'
    refine ⟨front, name, otherName, _, extension, otherExtension, hbelow, hbelow', hcuts, hcuts', ?_⟩
    -- With one extension the names, and with them the paths, would be the same.
    rintro rfl
    exact hne (by rw [hbelow.path, hbelow'.path, hcuts.whole, hcuts'.whole])

/-- Templates of one name in one directory, and another in a directory below. -/
def Sample.nested : World :=
  Sample.worldWith [["vü"], ["vü", "teile"]]
    [(["vü", "a.hbs"], "A"), (["vü", "a.handlebars"], "B"), (["vü", "teile", "a.hbs"], "C")]

theorem Sample.nested_sound : Sample.nested.files.tree.Sound := by decide +kernel

theorem Sample.nested_collected :
    ((collectInputs ["./vü"] Sample.pattern []).outcome Sample.nested).1 =
      .ok ["./vü/a.handlebars", "./vü/a.hbs", "./vü/teile/a.hbs"] := by
  have hsorted : Sample.nested.files.tree.sortedListing ["vü"] = [("a.handlebars", .file "B".toUTF8 false),
      ("a.hbs", .file "A".toUTF8 false), ("teile", .directory false)] :=
    FileTree.sortedListing_eq Sample.nested_sound (by decide +kernel) (by decide +kernel)
  have hheight : Sample.nested.files.tree.height = 3 + 1 := by decide +kernel
  -- Sorting does not compute in the kernel, so the one long listing is put in sorted.
  have hwalk : (∀ step ∈ Sample.nested.files.tree.walk ["vü"] "./vü", step.names?.isSome = true) ∧
      Sample.nested.files.tree.templatesIn Sample.pattern [] ["vü"] "./vü" =
        [["a.handlebars"], ["a.hbs"], ["teile", "a.hbs"]] := by
    rw [FileTree.templatesIn, FileTree.walk, hheight, FileTree.walkWithin, if_neg (by decide +kernel), hsorted]
    decide +kernel
  have hfind : Sample.nested.files.find? "./vü" = some (["vü"], .directory false) := by decide +kernel
  exact (collectInputs_walked Sample.nested_sound hfind hwalk.1 hwalk.2).trans (by decide +kernel)

/-- Below the root two of these templates share a name. -/
theorem rooted_names_nested :
    ∃ front name otherName stem extension otherExtension,
      IsBelow Sample.pattern Sample.nested.files "./vü" "./vü/a.hbs" front name ∧
      IsBelow Sample.pattern Sample.nested.files "./vü" "./vü/a.handlebars" front otherName ∧
      Sample.pattern.Cuts name stem extension ∧ Sample.pattern.Cuts otherName stem otherExtension ∧
      extension ≠ otherExtension := by
  obtain ⟨_, _, _, hblock⟩ := rooted_names (d := "./vü") Sample.nested_sound (by decide +kernel) (by decide)
    (by decide) Sample.nested_collected
  obtain ⟨_, hshared⟩ := hblock _ Sample.nested_collected
  exact hshared "./vü/a.hbs" (by simp) "./vü/a.handlebars" (by simp) (by decide) (by decide +kernel)

end Precompiler
