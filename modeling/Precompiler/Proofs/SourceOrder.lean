import Mathlib.Data.List.Perm.Basic
import Precompiler.Proofs.OutputNames
import Precompiler.Proofs.RootedNames
import Precompiler.Proofs.Sample

/-! The order of the sources.

A batch goes through its sources in their order, and each template is read, and its module written, in
what the ones before it have left. Where the modules go to different files, none of them the file of a
template, nothing of this can be told in the end. Several sources have their modules in one directory or
each beside its template (`outputOf_several`), so all directories are made for the first module, if any are
(`exists_made`). From then on nothing but files is new, and a template is *ready* whatever other modules
are there already (`Ready.compiles`). Templates that are ready together are so in any order
(`ReadyTogether.perm`); they make a run, and what it leaves is the contents that were put, one for each
place (`ReadyTogether.run`). A run that has succeeded tells that its templates were ready (`Run.ready`), so
the batch succeeds in any other order, too (`source_order_immaterial`). -/
namespace Precompiler

variable {spot goal : Location} {content : ByteArray} {puts others done : List (Location × ByteArray)}

/-! ### Contents put in any order -/

/-- Of contents at different places each is the last at its own. -/
theorem lastPut_eq_some_iff (honce : (puts.map (·.1)).Nodup) :
    lastPut spot puts = some content ↔ (spot, content) ∈ puts := by
  induction puts with
  | nil => simp
  | cons put rest ih =>
    obtain ⟨place, first⟩ := put
    obtain ⟨hnew, honce⟩ := List.nodup_cons.mp honce
    have hparts : lastPut spot ((place, first) :: rest) =
        (lastPut spot rest).or (if spot = place then some first else none) := by
      rw [← lastPut_singleton, ← lastPut_append]
      rfl
    rw [hparts, Option.or_eq_some_iff, ih honce]
    constructor
    · rintro (hrest | ⟨_, hfirst⟩)
      · exact List.mem_cons_of_mem _ hrest
      · split at hfirst <;> cases hfirst
        next heq => exact heq ▸ List.mem_cons_self
    · rintro hmem
      rcases List.mem_cons.mp hmem with heq | hrest
      · cases heq
        exact .inr ⟨lastPut_eq_none_iff.mpr fun put hput heq => hnew (List.mem_map.mpr ⟨put, hput, heq⟩),
          if_pos rfl⟩
      · exact .inl hrest

/-- Contents at different places can be put in any order. -/
theorem lastPut_perm (honce : (puts.map (·.1)).Nodup) (h : puts.Perm others) (spot : Location) :
    lastPut spot puts = lastPut spot others := by
  have honce' : (others.map (·.1)).Nodup := (h.map _).nodup_iff.mp honce
  refine Option.ext fun content => ?_
  rw [lastPut_eq_some_iff honce, lastPut_eq_some_iff honce', h.mem_iff]

namespace Files

variable {files made : Files}

/-- Files with contents put at places, one after another. -/
def putAll (files : Files) (puts : List (Location × ByteArray)) : Files :=
  puts.foldl (fun files put => files.put put.1 (.file put.2 false)) files

theorem putAll_concat (files : Files) (puts : List (Location × ByteArray)) (put : Location × ByteArray) :
    files.putAll (puts ++ [put]) = (files.putAll puts).put put.1 (.file put.2 false) := by
  rw [putAll, List.foldl_append]
  rfl

theorem here_putAll (files : Files) (puts : List (Location × ByteArray)) :
    (files.putAll puts).here = files.here := by
  induction puts using List.reverseRecOn with
  | nil => rfl
  | append_singleton puts put ih => exact (congrArg here (putAll_concat files puts put)).trans ih

/-- Each place holds what was put there last, or else what stood there. -/
theorem get?_putAll (hfree : ∀ put ∈ puts, ¬files.tree.HasDirectory put.1) (spot : Location) :
    (files.putAll puts).tree.get? spot =
      ((lastPut spot puts).map (Entry.file · false)).or (files.tree.get? spot) := by
  induction puts using List.reverseRecOn with
  | nil => rfl
  | append_singleton puts put ih =>
    obtain ⟨hfrees, hlast⟩ := List.forall_mem_append.mp hfree
    have hne : put.1 ≠ [] := ne_nil_of_free fun s hget => hlast put List.mem_cons_self ⟨s, hget⟩
    have hput : (files.putAll (puts ++ [put])).tree.get? spot =
        if spot = put.1 then some (.file put.2 false) else (files.putAll puts).tree.get? spot := by
      rw [putAll_concat]
      exact FileTree.get?_put _ _ _ _ hne
    rw [hput, ih hfrees, lastPut_append, lastPut_singleton]
    split <;> rfl

theorem putAll_changes (hfree : ∀ put ∈ puts, ¬files.tree.HasDirectory put.1) :
    Changes puts files (files.putAll puts) where
  here := here_putAll files puts
  put spot content hput := by
    obtain ⟨put, hmem, rfl⟩ : ∃ put ∈ puts, put.1 = spot := by
      by_contra hnone
      rw [lastPut_eq_none_iff.mpr fun put hmem heq => hnone ⟨put, hmem, heq⟩] at hput
      cases hput
    refine ⟨?_, fun s hget => hfree put hmem ⟨s, hget⟩⟩
    rw [get?_putAll hfree, hput]
    rfl
  kept spot hput := by
    rw [get?_putAll hfree, hput]
    exact .inl rfl

/-- Contents at different places leave the same in any order. -/
theorem get?_putAll_perm (hfree : ∀ put ∈ puts, ¬files.tree.HasDirectory put.1)
    (honce : (puts.map (·.1)).Nodup) (h : puts.Perm others) (spot : Location) :
    (files.putAll others).tree.get? spot = (files.putAll puts).tree.get? spot := by
  have hfreeOthers : ∀ put ∈ others, ¬files.tree.HasDirectory put.1 :=
    fun put hput => hfree put (h.mem_iff.mpr hput)
  rw [get?_putAll hfree, get?_putAll hfreeOthers, lastPut_perm honce h]

/-- A path that is open after changes was open before, if its directory was there. -/
theorem OpenTo.earlier {path : Path} (h : made.OpenTo path goal) (hlinkless : files.tree.Linkless)
    (hchanges : Changes done files made) (hdirectory : files.isDirectory (outputDirectory path) = true) :
    files.OpenTo path goal := by
  obtain ⟨directory, name, hsplits, hstep, hfind, hgoal⟩ := h.place
  obtain ⟨spot, s, hthere⟩ := isDirectory_iff.mp hdirectory
  have hkept := hchanges.find?_directory (fun spot path hget => absurd hget (hlinkless spot path)) hthere
  cases hkept.symm.trans hfind
  exact ⟨h.usable, ⟨directory, name, hsplits, hstep, hthere, hgoal⟩,
    fun ⟨s, hget⟩ => h.free ⟨s, hchanges.directory hget⟩⟩

end Files

/-- Sound trees that show the same have the same entries. -/
theorem FileTree.Sound.perm_of_get? {tree other : FileTree} (h : tree.Sound) (hother : other.Sound)
    (hget : ∀ spot, other.get? spot = tree.get? spot) : other.entries.Perm tree.entries := by
  refine (List.perm_ext_iff_of_nodup (.of_map _ hother.once) (.of_map _ h.once)).mpr ?_
  rintro ⟨spot, entry⟩
  rw [hother.mem_iff, h.mem_iff, hget]

/-! ### Ready templates -/

variable {engine : Engine} {options : Options} {setup : Setup} {files made before after : Files}
  {output : Path → Option Path} {compiled : List Compiled} {path : Path}

/-- A template is ready: it can be compiled from the files as they are, and when certain directories have
been made, its output path is open. -/
structure Ready (engine : Engine) (options : Options) (setup : Setup) (files made : Files) (path : Path)
    (compiled : Compiled) (put : Location × ByteArray) : Prop where
  output : compiled.output = some path
  name : compiled.name = resolveName compiled.input options.root setup.pattern
  text : moduleText engine options setup files compiled.input = .ok compiled.text
  bytes : options.charset.encode compiled.text path = .ok put.2
  directories : files.makeDirectories (outputDirectory path) = (made, .ok ())
  opened : made.OpenTo path put.1
  reached : ∃ directory name, files.Reaches compiled.input directory name

/-- A template that is ready is compiled alike after contents have been put elsewhere. -/
theorem Ready.compiles {c : Compiled} {put : Location × ByteArray}
    (h : Ready engine options setup files made path c put) (hlinkless : files.tree.Linkless)
    (hmakes : Files.Changes [] files made) (hfree : ∀ other ∈ done, ¬made.tree.HasDirectory other.1)
    (hnew : ∀ other ∈ done, other.1 ≠ put.1) (hclear : ∀ other ∈ done, files.spotOf c.input ≠ some other.1) :
    Compiles engine options setup path (made.putAll done)
      ((made.putAll done).put put.1 (.file put.2 false)) c put := by
  have hchanges := Files.putAll_changes hfree
  have hopen : (made.putAll done).OpenTo path put.1 := by
    refine h.opened.later (hmakes.linkless hlinkless) hchanges fun ⟨s, hget⟩ => h.opened.free ⟨s, ?_⟩
    rwa [Files.get?_putAll hfree, lastPut_eq_none_iff.mpr hnew, Option.map_none, Option.none_or] at hget
  obtain ⟨directory, name, hreaches⟩ := h.reached
  have hspared : lastPut (directory ++ [name]) done = none := by
    refine lastPut_eq_none_iff.mpr fun other hother heq => hclear other hother ?_
    rw [heq]
    exact hreaches.spotOf hlinkless
  have hread := hreaches.read?_eq hlinkless (hmakes.trans hchanges) hspared
  exact ⟨h.output, h.name, (moduleText_congr hread).trans h.text, h.bytes, _, hopen.makeDirectories, hopen, rfl⟩

/-- Once the directories are made, templates that are ready make a run. -/
theorem run_later (hlinkless : files.tree.Linkless) (hmakes : Files.Changes [] files made)
    (h : List.Forall₂ (fun c put => ∃ path, output c.input = some path ∧
      Ready engine options setup files made path c put) compiled puts)
    (hfree : ∀ other ∈ done, ¬made.tree.HasDirectory other.1) (honce : ((done ++ puts).map (·.1)).Nodup)
    (hclear : ∀ put ∈ done ++ puts, ∀ c ∈ compiled, files.spotOf c.input ≠ some put.1) :
    Run engine options setup output (made.putAll done) compiled puts (made.putAll (done ++ puts)) := by
  induction h generalizing done with
  | nil =>
    rw [List.append_nil]
    exact .nil _
  | @cons c put rest puts hfirst _ ih =>
    obtain ⟨path, hpath, hready⟩ := hfirst
    have hnew : ∀ other ∈ done, other.1 ≠ put.1 := by
      rw [List.map_append, List.nodup_append] at honce
      exact fun other hother => honce.2.2 other.1 (List.mem_map_of_mem hother) put.1 List.mem_cons_self
    have hcompiles := hready.compiles hlinkless hmakes hfree hnew fun other hother =>
      hclear other (List.mem_append_left _ hother) c List.mem_cons_self
    rw [← Files.putAll_concat] at hcompiles
    rw [List.append_cons] at honce hclear ⊢
    refine .cons hpath hcompiles (ih (fun other hother => ?_) honce fun put hput c hc =>
      hclear put hput c (List.mem_cons_of_mem _ hc))
    rcases List.mem_append.mp hother with hother | hother
    · exact hfree other hother
    · exact List.mem_singleton.mp hother ▸ hready.opened.free

/-- Templates are ready together, once directories have been made for the first of them: their modules go to
different places, none of them that of a template. -/
structure ReadyTogether (engine : Engine) (options : Options) (setup : Setup) (output : Path → Option Path)
    (files made : Files) (compiled : List Compiled) (puts : List (Location × ByteArray)) : Prop where
  makes : Files.Changes [] files made
  unmade : compiled = [] → made = files
  each : List.Forall₂ (fun c put => ∃ path, output c.input = some path ∧
    Ready engine options setup files made path c put) compiled puts
  once : (puts.map (·.1)).Nodup
  clear : ∀ put ∈ puts, ∀ c ∈ compiled, files.spotOf c.input ≠ some put.1

namespace ReadyTogether

theorem free (h : ReadyTogether engine options setup output files made compiled puts) :
    ∀ put ∈ puts, ¬made.tree.HasDirectory put.1 := by
  intro put hput
  obtain ⟨_, _, _, _, hready⟩ := Action.exists_of_forall₂ h.each hput
  exact hready.opened.free

/-- Templates that are ready together are so in any order. -/
theorem perm {templates : List Compiled}
    (h : ReadyTogether engine options setup output files made compiled puts)
    (hperm : templates.Perm compiled) : ∃ others, others.Perm puts ∧
      ReadyTogether engine options setup output files made templates others := by
  obtain ⟨others, heach, hputs⟩ := List.perm_comp_forall₂ hperm h.each
  exact ⟨others, hputs, h.makes, fun hempty => h.unmade (List.perm_nil.mp (hempty ▸ hperm).symm), heach,
    (hputs.map _).nodup_iff.mpr h.once,
    fun put hput c hc => h.clear put (hputs.mem_iff.mp hput) c (hperm.mem_iff.mp hc)⟩

/-- Templates that are ready together make a run, and it leaves the contents that it puts. -/
theorem run (h : ReadyTogether engine options setup output files made compiled puts)
    (hlinkless : files.tree.Linkless) :
    Run engine options setup output files compiled puts (made.putAll puts) := by
  obtain ⟨hmakes, hunmade, heach, honce, hclear⟩ := h
  cases heach with
  | nil =>
    rw [hunmade rfl]
    exact .nil _
  | @cons c put rest puts hfirst hrest =>
    obtain ⟨path, hpath, hready⟩ := hfirst
    have hlater : Run engine options setup output (made.putAll [put]) rest puts (made.putAll ([put] ++ puts)) :=
      run_later hlinkless hmakes hrest
        (fun other hother => List.mem_singleton.mp hother ▸ hready.opened.free) honce
        fun put hput c hc => hclear put hput c (List.mem_cons_of_mem _ hc)
    exact .cons hpath ⟨hready.output, hready.name, hready.text, hready.bytes, made, hready.directories,
      hready.opened, rfl⟩ hlater

end ReadyTogether

/-- What a run has compiled was ready, if the directories that it needs are there at once. -/
theorem Run.ready (hlinkless : files.tree.Linkless) (hmakes : Files.Changes [] files made)
    (h : Run engine options setup output before compiled puts after)
    (hbefore : before = files ∨ Files.Changes done made before)
    (hdirectories : ∀ c ∈ compiled, ∀ path, output c.input = some path →
      files.makeDirectories (outputDirectory path) = (made, .ok ()) ∧
        made.isDirectory (outputDirectory path) = true)
    (htexts : ∀ c ∈ compiled, Precompiler.moduleText engine options setup files c.input = .ok c.text)
    (hreached : ∀ c ∈ compiled, ∃ directory name, files.Reaches c.input directory name) :
    List.Forall₂ (fun c put => ∃ path, output c.input = some path ∧
      Ready engine options setup files made path c put) compiled puts := by
  induction h generalizing done with
  | nil => exact .nil
  | @cons before middle after c rest path put puts hpath hcompiles _ ih =>
    obtain ⟨hfirst, hrest⟩ := List.forall_mem_cons.mp hdirectories
    obtain ⟨hmade, hthere⟩ := hfirst path hpath
    have hmadeless := hmakes.linkless hlinkless
    obtain ⟨now, hnow, hopen, rfl⟩ := hcompiles.written
    -- The directories are made now, or they have been there since the first template.
    obtain ⟨more, hchanges⟩ : ∃ more, Files.Changes more made now := by
      rcases hbefore with rfl | hchanges
      · obtain rfl : made = now := congrArg Prod.fst (hmade.symm.trans hnow)
        exact ⟨[], .refl _⟩
      · obtain ⟨spot, s, hfind⟩ := Files.isDirectory_iff.mp hthere
        have hkept := hchanges.find?_directory (fun spot path hget => absurd hget (hmadeless spot path)) hfind
        rw [Files.makeDirectories_of_isDirectory (Files.isDirectory_iff.mpr ⟨spot, s, hkept⟩)] at hnow
        obtain rfl : before = now := congrArg Prod.fst hnow
        exact ⟨done, hchanges⟩
    have hready : Ready engine options setup files made path c put :=
      ⟨hcompiles.output, hcompiles.name, htexts c List.mem_cons_self, hcompiles.bytes, hmade,
        hopen.earlier hmadeless hchanges hthere, hreached c List.mem_cons_self⟩
    exact .cons ⟨path, hpath, hready⟩ (ih (.inr (hchanges.trans (hopen.changes put.2))) hrest
      (fun c hc => htexts c (List.mem_cons_of_mem _ hc)) fun c hc => hreached c (List.mem_cons_of_mem _ hc))

/-! ### Where several sources have their modules -/

variable {batch : Batch} {world last : World} {directory : Location} {name : String}

/-- All paths of names in one directory have the same output directory. -/
theorem outputDirectory_join {base : Path} (hbare : '/' ∉ name.toList) (hname : Path.isIdle name = false) :
    outputDirectory (Path.join base name) =
      if Path.directoryPath (Path.bareSegments base) == "" then "."
      else Path.directoryPath (Path.bareSegments base) := by
  rw [outputDirectory, Path.parent?_of_segments (Path.segments_join_name hbare) hname]

/-- Several sources are not looked at, whatever the files. -/
theorem InputFacts.ofSources_several {sources : List Path} (h : 2 ≤ sources.length) (files : Files) :
    ofSources files sources = .of sources.length false := by
  rcases sources with _ | ⟨_, _ | _⟩
  · rfl
  · simp at h
  · rfl

theorem Destination.resolve_several {sources : List Path} (h : 2 ≤ sources.length) (files : Files) :
    resolve files none sources = .besideInput := by
  rcases sources with _ | ⟨_, _ | _⟩
  · rfl
  · simp at h
  · rfl

/-- Several sources have their modules in one directory, or each beside its template. -/
theorem outputOf_several (hdry : batch.dryRun = false) (hmany : 2 ≤ batch.sources.length) (files : Files)
    (setup : Setup) :
    (∃ shared, ∀ input directory name path, files.Reaches input directory name →
      batch.outputOf files setup input = some path → outputDirectory path = shared) ∨
    ∀ input, batch.outputOf files setup input =
      some (Path.withFileName input (Destination.moduleName setup.pattern input)) := by
  unfold Batch.outputOf Batch.destination
  rw [hdry, if_neg Bool.false_ne_true]
  rcases batch.dest with _ | dest
  · refine .inr fun input => ?_
    rw [Destination.resolve_several hmany]
    rfl
  · refine .inl ?_
    by_cases hformat : Destination.isDirectoryFormat files dest = true
    · refine ⟨if Path.directoryPath (Path.bareSegments dest) == "" then "."
        else Path.directoryPath (Path.bareSegments dest), fun input directory name path hreaches hpath => ?_⟩
      rw [Destination.resolve, if_pos hformat] at hpath
      obtain rfl : Path.join dest (Destination.moduleName setup.pattern input) = path := Option.some.inj hpath
      have hbare := Destination.moduleName_bare setup.pattern hreaches
      rw [moduleName_eq_resolveName hreaches] at hbare ⊢
      exact outputDirectory_join hbare (isIdle_append_js _)
    · refine ⟨outputDirectory dest, fun input directory name path _ hpath => ?_⟩
      rw [Destination.resolve, if_neg hformat] at hpath
      exact congrArg outputDirectory (Option.some.inj hpath).symm

/-- In sound files without links a name that is there is reached in a directory. -/
theorem hasDirectory_of_reaches {entry : Entry} (hsound : files.Sound) (hlinkless : files.tree.Linkless)
    (h : files.Reaches path directory name) (hfind : files.find? path = some (spot, entry)) :
    files.tree.HasDirectory directory := by
  obtain ⟨_, rfl, hget⟩ := (h.find?_eq_some_iff hlinkless).mp hfind
  exact (hsound.tree.parent hget).2

/-- Where a path that is open reached a name in a directory before, its output directory was there. -/
theorem isDirectory_of_openTo (hopen : made.OpenTo path goal)
    (hreaches : files.Reaches path directory name) (hdirectory : files.tree.HasDirectory directory) :
    files.isDirectory (outputDirectory path) = true := by
  obtain ⟨_, other, hsplits, _, hfind, _⟩ := hopen.place
  obtain ⟨hne, husable, _⟩ := Files.resolve_eq_ok_iff.mp (Files.find?_eq_some_iff.mp hfind)
  obtain ⟨front, begin, m, hsegments, _, hbegin, henters⟩ := hreaches
  obtain ⟨back, hback, hspeaking⟩ := hsplits.segments
  obtain ⟨rfl, -⟩ := List.append_inj' (hsegments.symm.trans hback) rfl
  obtain ⟨s, hget⟩ := hdirectory
  -- Behind the way into the directory an idle segment leads to the directory itself.
  have hhere := henters.congr hspeaking true ["."] (List.cons_ne_nil "." [])
  rw [FileTree.follow_idle (by decide), FileTree.follow_nil, hget] at hhere
  have hleads := (FileTree.follow_eq_ok_iff.mp hhere).drop_idle rfl (by decide)
  refine Files.isDirectory_iff.mpr ⟨directory, s, Files.find?_eq_some_iff.mpr
    (Files.resolve_eq_ok_iff.mpr ⟨hne, husable, begin, ?_, hleads⟩)⟩
  rw [← hbegin, Files.start, Files.start, hsplits.isAbsolute]

theorem Run.first {first : Compiled} {rest : List Compiled}
    (h : Run engine options setup output before (first :: rest) puts after) :
    ∃ put path middle, output first.input = some path ∧
      Compiles engine options setup path before middle first put := by
  cases h with
  | cons hpath hcompiles _ => exact ⟨_, _, _, hpath, hcompiles⟩

/-- The directories that the modules of several sources need are made for the first of them. -/
theorem exists_made (hsound : files.Sound) (hlinkless : files.tree.Linkless) (hdry : batch.dryRun = false)
    (hmany : 2 ≤ batch.sources.length)
    (h : Run engine options setup (batch.outputOf files setup) files compiled puts after)
    (htexts : ∀ c ∈ compiled, moduleText engine options setup files c.input = .ok c.text)
    (hreached : ∀ c ∈ compiled, ∃ directory name, files.Reaches c.input directory name) :
    ∃ made, (compiled = [] → made = files) ∧ Files.Changes [] files made ∧
      ∀ c ∈ compiled, ∀ path, batch.outputOf files setup c.input = some path →
        files.makeDirectories (outputDirectory path) = (made, .ok ()) ∧
          made.isDirectory (outputDirectory path) = true := by
  rcases outputOf_several hdry hmany files setup with ⟨shared, hshared⟩ | hbeside
  · rcases compiled with _ | ⟨first, rest⟩
    · exact ⟨files, fun _ => rfl, .refl files, fun c hc => nomatch hc⟩
    · obtain ⟨_, path, _, hpath, hcompiles⟩ := h.first
      obtain ⟨made, hmade, hopen, _⟩ := hcompiles.written
      obtain ⟨spot, _, _, _, hfind, _⟩ := hopen.place
      have hmakes := Files.makeDirectories_writes files (outputDirectory path)
      rw [hmade] at hmakes
      refine ⟨made, nofun, hmakes.changes, fun c hc path' hpath' => ?_⟩
      obtain ⟨directory, name, hfirst⟩ := hreached first List.mem_cons_self
      obtain ⟨directory', name', hreaches⟩ := hreached c hc
      have hsame : outputDirectory path' = outputDirectory path :=
        (hshared _ _ _ _ hreaches hpath').trans (hshared _ _ _ _ hfirst hpath).symm
      rw [hsame]
      exact ⟨hmade, Files.isDirectory_iff.mpr ⟨spot, false, hfind⟩⟩
  · refine ⟨files, fun _ => rfl, .refl files, fun c hc path hpath => ?_⟩
    obtain ⟨put, _, path', hpath', hlands⟩ := Action.exists_of_forall₂ (List.Forall₂.flip h.lands) hc
    obtain rfl := Option.some.inj (hpath.symm.trans hpath')
    obtain ⟨_, _, _, _, hopen, _⟩ := hlands.opened
    obtain ⟨directory, name, hreaches⟩ := hreached c hc
    obtain ⟨bytes, _, _, hread, _⟩ := moduleText_ok_iff.mp (htexts c hc)
    obtain ⟨spot, x, hfind⟩ := Files.read?_eq_some_iff.mp hread
    have hdirectory := hasDirectory_of_reaches hsound hlinkless hreaches hfind
    have hbare := Destination.moduleName_bare setup.pattern hreaches
    obtain rfl := Option.some.inj ((hbeside c.input).symm.trans hpath)
    obtain ⟨front, _, _, hsegments, hstep, _⟩ := id hreaches
    have hmodule := Path.segments_withFileName hsegments hstep.speaks hstep.notUp hbare
    have hthere := isDirectory_of_openTo hopen
      (hreaches.beside (hopen.named hmodule).1 hbare) hdirectory
    exact ⟨Files.makeDirectories_of_isDirectory hthere, hthere⟩

/-! ### What a batch depends on -/

variable {pattern : ExtensionPattern} {exclude : List String} {sources inputs : List Path}

/-- What is collected from one source, if anything is. -/
def collectedFrom [Glob.Joining] (pattern : ExtensionPattern) (exclude : List String) (world : World) (source : Path) :
    List Path :=
  match ((collectInputs [source] pattern exclude).outcome world).1 with
  | .ok block => block
  | .error _ => []

theorem IsCollectedFrom.eq [Glob.Joining] {source : Path} {block : List Path}
    (h : IsCollectedFrom pattern exclude world source block) :
    collectedFrom pattern exclude world source = block := by
  rw [collectedFrom, h]

/-- What is collected is collected from one source after another, and from the same sources in another
order it is collected in that order. -/
theorem collected_in_order [Glob.Joining] (hsound : world.files.tree.Sound)
    (h : ((collectInputs sources pattern exclude).outcome world).1 = .ok inputs) :
    (∀ source ∈ sources,
      IsCollectedFrom pattern exclude world source (collectedFrom pattern exclude world source)) ∧
    inputs = sources.flatMap (collectedFrom pattern exclude world) ∧
    ∀ others journal, others.Perm sources →
      ((collectInputs others pattern exclude).outcome ⟨world.files, journal⟩).1 =
        .ok (others.flatMap (collectedFrom pattern exclude world)) := by
  obtain ⟨excludes, hexcludes, blocks, hblocks, rfl⟩ := (collectInputs_ok_iff hsound).mp h
  have hfrom : ∀ {source block}, Contributes pattern excludes world.files source block →
      IsCollectedFrom pattern exclude world source block := fun hblock =>
    (isCollectedFrom_iff hsound).mpr ⟨excludes, hexcludes, hblock⟩
  have heach : ∀ source ∈ sources, Contributes pattern excludes world.files source
      (collectedFrom pattern exclude world source) := by
    intro source hsource
    obtain ⟨block, _, hblock⟩ := Action.exists_of_forall₂ (List.Forall₂.flip hblocks) hsource
    rwa [(hfrom hblock).eq]
  refine ⟨fun source hsource => hfrom (heach source hsource), ?_, fun others journal hperm => ?_⟩
  · have hsame : List.Forall₂ Eq (sources.map (collectedFrom pattern exclude world)) blocks :=
      List.forall₂_map_left_iff.mpr (hblocks.imp fun _ _ hblock => (hfrom hblock).eq)
    rw [List.forall₂_eq_eq_eq] at hsame
    rw [List.flatMap_def, hsame]
  · refine (collectInputs_ok_iff ?_).mpr ⟨excludes, hexcludes, _, ?_, rfl⟩
    · exact hsound
    · exact List.forall₂_map_right_iff.mpr (List.forall₂_same.mpr fun source hsource =>
        heach source (hperm.mem_iff.mp hsource))

/-- The batch with other sources. -/
def Batch.withSources (batch : Batch) (sources : List Path) : Batch := {batch with sources := sources}

/-- Of several sources only their number counts for a setup. -/
theorem Setup.of_several (hmany : 2 ≤ batch.sources.length) (hlength : sources.length = batch.sources.length)
    (h : Setup.of options files batch.sources = .ok setup) : Setup.of options files sources = .ok setup := by
  obtain ⟨hpattern, hfacts⟩ := Setup.of_eq_ok_iff.mp h
  rw [InputFacts.ofSources_several hmany, ← hlength] at hfacts
  exact Setup.of_eq_ok_iff.mpr ⟨hpattern, hfacts.trans (InputFacts.ofSources_several (hlength ▸ hmany) files).symm⟩

/-- Modules go where they went if there are several sources still. -/
theorem outputOf_withSources (hmany : 2 ≤ batch.sources.length) (hlength : sources.length = batch.sources.length)
    (files : Files) (setup : Setup) :
    (batch.withSources sources).outputOf files setup = batch.outputOf files setup := by
  have hdestination : (batch.withSources sources).destination files = batch.destination files := by
    unfold Batch.destination Batch.withSources
    rcases batch.dest with _ | dest
    · rw [Destination.resolve_several hmany, Destination.resolve_several (hlength ▸ hmany)]
    · rfl
  funext input
  rw [Batch.outputOf, Batch.outputOf, hdestination]

/-- A batch whose templates make a run succeeds and leaves what the run leaves. -/
theorem Run.outcome_batch [Glob.Joining] (hsetup : Setup.of options world.files batch.sources = .ok setup)
    (hinputs : ((collectInputs batch.sources setup.pattern batch.exclude).outcome world).1 =
      .ok (compiled.map (·.input)))
    (h : Run engine options setup (batch.outputOf world.files setup) world.files compiled puts after) :
    ∃ more, (compileBatch engine batch options).outcome world = (.ok compiled, ⟨after, more⟩) := by
  obtain ⟨events, _, hgoes⟩ : (compileBatch engine batch options).Becomes world.files _ _ :=
    compileBatch_becomes hsetup hinputs
  obtain ⟨more, hchain⟩ := h.chain (world.journal ++ events)
  exact ⟨more, (hgoes world.journal).trans (Action.outcome_mapM_ok_iff.mpr hchain)⟩

/-! ### Batches in another order -/

/-- The place where the module of a template goes. -/
def Batch.placeOf (batch : Batch) (files : Files) (setup : Setup) (input : Path) : Option Location :=
  (batch.outputOf files setup input).bind files.spotOf

/-- A batch whose modules go to different places, none of them that of a template. -/
def Batch.IsDisjoint [Glob.Joining] (batch : Batch) (options : Options) (world : World) : Prop :=
  ∀ setup inputs, Setup.of options world.files batch.sources = .ok setup →
    ((collectInputs batch.sources setup.pattern batch.exclude).outcome world).1 = .ok inputs →
    (inputs.map (batch.placeOf world.files setup)).Nodup ∧
      ∀ input ∈ inputs, ∀ other ∈ inputs, batch.placeOf world.files setup input ≠ world.files.spotOf other

/-- What a batch compiles a template to from the files, if it can. -/
def Batch.compiledFrom (batch : Batch) (engine : Engine) (options : Options) (files : Files) (setup : Setup)
    (input : Path) : Compiled where
  input := input
  output := batch.outputOf files setup input
  name := resolveName input options.root setup.pattern
  text := (moduleText engine options setup files input).toOption.getD ""

theorem Ready.eq_compiledFrom {c : Compiled} {put : Location × ByteArray}
    (h : Ready engine options setup files made path c put)
    (hpath : batch.outputOf files setup c.input = some path) :
    batch.compiledFrom engine options files setup c.input = c := by
  have htext : (moduleText engine options setup files c.input).toOption.getD "" = c.text := by
    rw [h.text]
    rfl
  rw [Batch.compiledFrom, htext, hpath, ← h.output, ← h.name]

theorem Batch.map_compiledFrom_input (batch : Batch) (engine : Engine) (options : Options) (files : Files)
    (setup : Setup) (inputs : List Path) :
    (inputs.map (batch.compiledFrom engine options files setup)).map (·.input) = inputs := by
  rw [List.map_map]
  exact List.map_id inputs

/-- What a run puts goes to the places of its modules. -/
theorem Run.places (h : Run engine options setup (batch.outputOf files setup) files compiled puts after)
    (hlinkless : files.tree.Linkless) :
    compiled.map (fun c => batch.placeOf files setup c.input) = puts.map fun put => some put.1 := by
  rw [← List.forall₂_eq_eq_eq, List.forall₂_map_left_iff, List.forall₂_map_right_iff]
  refine (h.isPut hlinkless).imp ?_
  rintro c put ⟨path, _, hpath, hspot, _⟩
  rw [Batch.placeOf, hpath, Option.bind_some, hspot]

/-- What a run of a batch puts goes to different places, none of them that of a template, if its modules
do. -/
theorem Run.puts_disjoint
    (h : Run engine options setup (batch.outputOf files setup) files compiled puts after)
    (hlinkless : files.tree.Linkless)
    (honce : ((compiled.map (·.input)).map (batch.placeOf files setup)).Nodup)
    (hclear : ∀ input ∈ compiled.map (·.input), ∀ other ∈ compiled.map (·.input),
      batch.placeOf files setup input ≠ files.spotOf other) :
    (puts.map (·.1)).Nodup ∧ ∀ put ∈ puts, ∀ c ∈ compiled, files.spotOf c.input ≠ some put.1 := by
  have hplaces := h.places hlinkless
  refine ⟨?_, fun put hput c hc heq => ?_⟩
  · have hsome : ((puts.map (·.1)).map some).Nodup := by
      rw [List.map_map] at honce ⊢
      exact hplaces ▸ honce
    exact hsome.of_map some
  · obtain ⟨other, hother, hplace⟩ := List.mem_map.mp (hplaces ▸ List.mem_map_of_mem hput)
    exact hclear other.input (List.mem_map_of_mem hother) c.input (List.mem_map_of_mem hc)
      (hplace.trans heq.symm)

/-- Where the templates of several sources have been collected, and their modules go to different places,
none of them that of a template, all that a run has compiled was ready from the beginning. -/
theorem Run.readyTogether [Glob.Joining] (hsound : world.files.Sound) (hlinkless : world.files.tree.Linkless)
    (hdry : batch.dryRun = false) (hmany : 2 ≤ batch.sources.length)
    (hinputs : ((collectInputs batch.sources setup.pattern batch.exclude).outcome world).1 =
      .ok (compiled.map (·.input)))
    (h : Run engine options setup (batch.outputOf world.files setup) world.files compiled puts after)
    (honce : (puts.map (·.1)).Nodup)
    (hclear : ∀ put ∈ puts, ∀ c ∈ compiled, world.files.spotOf c.input ≠ some put.1) :
    ∃ made, ReadyTogether engine options setup (batch.outputOf world.files setup) world.files made
      compiled puts := by
  have hreached : ∀ c ∈ compiled, ∃ directory name, world.files.Reaches c.input directory name := by
    intro c hc
    obtain ⟨directory, name, hreaches, _⟩ := collected_reaches hsound hinputs (List.mem_map_of_mem hc)
    exact ⟨directory, name, hreaches⟩
  have hapart : Apart world.files (batch.outputOf world.files setup) (compiled.map (·.input)) := by
    refine List.pairwise_of_forall_mem_list fun input hinput later hlater path hpath heq => ?_
    obtain ⟨c, hc, rfl⟩ := List.mem_map.mp hinput
    obtain ⟨other, hother, rfl⟩ := List.mem_map.mp hlater
    obtain ⟨put, hput, path', _, hpath', hspot, _⟩ :=
      Action.exists_of_forall₂ (List.Forall₂.flip (h.isPut hlinkless)) hc
    cases hpath.symm.trans hpath'
    exact hclear put hput other hother (heq.symm.trans hspot)
  have htexts := h.moduleText_of_collected hinputs hsound hlinkless hapart
  obtain ⟨made, hunmade, hmakes, hdirectories⟩ := exists_made hsound hlinkless hdry hmany h htexts hreached
  have hbefore : world.files = world.files ∨ Files.Changes [] made world.files := .inl rfl
  exact ⟨made, hmakes, hunmade, h.ready hlinkless hmakes hbefore hdirectories htexts hreached, honce, hclear⟩

theorem ReadyTogether.map_compiledFrom
    (h : ReadyTogether engine options setup (batch.outputOf files setup) files made compiled puts) :
    (compiled.map (·.input)).map (batch.compiledFrom engine options files setup) = compiled := by
  rw [List.map_map]
  refine (List.map_congr_left fun c hc => ?_).trans (List.map_id compiled)
  obtain ⟨_, _, _, hpath, hready⟩ := Action.exists_of_forall₂ (List.Forall₂.flip h.each) hc
  exact hready.eq_compiledFrom hpath

/-- A batch with its sources in another order, whose templates are ready together in that order, leaves
what they put. -/
theorem ReadyTogether.outcome_withSources [Glob.Joining] {journal : List Event} {templates : List Compiled}
    (h : ReadyTogether engine options setup (batch.outputOf world.files setup) world.files made templates others)
    (hlinkless : world.files.tree.Linkless) (hmany : 2 ≤ batch.sources.length)
    (hperm : sources.Perm batch.sources)
    (hsetup : Setup.of options world.files batch.sources = .ok setup)
    (hinputs : ((collectInputs sources setup.pattern batch.exclude).outcome ⟨world.files, journal⟩).1 =
      .ok (templates.map (·.input))) :
    ∃ more, (compileBatch engine (batch.withSources sources) options).outcome ⟨world.files, journal⟩ =
      (.ok templates, ⟨made.putAll others, more⟩) := by
  have hway := h.run hlinkless
  rw [← outputOf_withSources hmany hperm.length_eq] at hway
  have hsetup' : Setup.of options world.files sources = .ok setup :=
    Setup.of_several hmany hperm.length_eq hsetup
  exact hway.outcome_batch hsetup' hinputs

/-- **The order of the sources leaves no trace.** A batch of several sources that succeeds, and whose
modules go to different places, none of them that of a template, has compiled a block of templates for
each source. With the sources in any other order it succeeds on the same files with the same blocks in
that order, and leaves the same files. -/
theorem source_order_immaterial [Glob.Joining] (hsound : world.files.Sound) (hlinkless : world.files.tree.Linkless)
    (hdry : batch.dryRun = false) (hmany : 2 ≤ batch.sources.length)
    (hdisjoint : batch.IsDisjoint options world)
    (hrun : (compileBatch engine batch options).outcome world = (.ok compiled, last)) :
    ∃ (pattern : ExtensionPattern) (block : Path → List Compiled),
      options.extensionPattern = .ok pattern ∧
      (∀ source ∈ batch.sources,
        IsCollectedFrom pattern batch.exclude world source ((block source).map (·.input))) ∧
      compiled = batch.sources.flatMap block ∧
      ∀ sources journal, sources.Perm batch.sources →
        ∃ left, (compileBatch engine (batch.withSources sources) options).outcome ⟨world.files, journal⟩ =
            (.ok (sources.flatMap block), left) ∧
          left.files.here = last.files.here ∧
          (∀ spot, left.files.tree.get? spot = last.files.tree.get? spot) ∧
          left.files.tree.entries.Perm last.files.tree.entries := by
  obtain ⟨setup, inputs, hsetup, hinputs, _, hchain⟩ := compileBatch_ok hrun
  obtain ⟨rfl, puts, hway⟩ := Batch.run_of_chain hdry hchain
  obtain ⟨hplaces, hplacesClear⟩ := hdisjoint setup _ hsetup hinputs
  obtain ⟨honce, hclear⟩ := hway.puts_disjoint hlinkless hplaces hplacesClear
  obtain ⟨made, hready⟩ := hway.readyTogether hsound hlinkless hdry hmany hinputs honce hclear
  have hlast : last.files = made.putAll puts := by
    obtain ⟨_, hagain⟩ := (hready.run hlinkless).outcome_batch hsetup hinputs
    rw [hrun] at hagain
    exact congrArg (·.2.files) hagain
  obtain ⟨hfrom, hblocks, hothers⟩ := collected_in_order hsound.tree hinputs
  have hcompiled := hready.map_compiledFrom
  rw [hblocks] at hcompiled
  refine ⟨setup.pattern, fun source => (collectedFrom setup.pattern batch.exclude world source).map
    (batch.compiledFrom engine options world.files setup), (Setup.of_eq_ok_iff.mp hsetup).1,
    fun source hsource => ?_, ?_, fun sources journal hperm => ?_⟩
  · rw [batch.map_compiledFrom_input]
    exact hfrom source hsource
  · rw [← List.map_flatMap, hcompiled]
  · rw [← List.map_flatMap]
    -- The same templates are ready in the other order, and put the same.
    have hsame : ((sources.flatMap (collectedFrom setup.pattern batch.exclude world)).map
        (batch.compiledFrom engine options world.files setup)).Perm compiled := by
      refine .trans ?_ (.of_eq hcompiled)
      exact (hperm.flatMap_right _).map _
    obtain ⟨others, hputs, hreadyOthers⟩ := hready.perm hsame
    have hinputs' := hothers sources journal hperm
    rw [← batch.map_compiledFrom_input engine options world.files setup (sources.flatMap _)] at hinputs'
    obtain ⟨more, houtcome⟩ := hreadyOthers.outcome_withSources hlinkless hmany hperm hsetup hinputs'
    have hget : ∀ spot, (made.putAll others).tree.get? spot = last.files.tree.get? spot := by
      rw [hlast]
      exact Files.get?_putAll_perm hready.free hready.once hputs.symm
    refine ⟨_, houtcome, ?_, hget, ?_⟩
    · rw [hlast, Files.here_putAll, Files.here_putAll]
    · exact (hway.writes.isSound hsound).tree.perm_of_get?
        ((hreadyOthers.run hlinkless).writes.isSound hsound).tree hget

/-- A directory and a file to be compiled into a directory that is not there. -/
def Sample.moving : Batch := ⟨["d", "c.hbs"], some "out/m/", [], false⟩

/-- The files of these sources. -/
def Sample.movingWorld : World := Sample.worldWith [["d"]] [(["d", "a.hbs"], "A"), (["c.hbs"], "C")]

theorem Sample.moving_isDisjoint : Sample.moving.IsDisjoint Sample.options Sample.movingWorld := by
  have hsetup : Setup.of Sample.options Sample.movingWorld.files Sample.moving.sources =
      .ok (Sample.setup 2 false) := rfl
  have hinputs : ((collectInputs Sample.moving.sources (Sample.setup 2 false).pattern
      Sample.moving.exclude).outcome Sample.movingWorld).1 = .ok ["d/a.hbs", "c.hbs"] := by
    decide +kernel
  intro setup inputs hsetup' hinputs'
  obtain rfl := Except.ok.inj (hsetup.symm.trans hsetup')
  obtain rfl := Except.ok.inj (hinputs.symm.trans hinputs')
  decide +kernel

theorem Sample.compiled_moving : ((compileBatch Sample.engine Sample.moving Sample.options).outcome
    Sample.movingWorld).1 =
      .ok [⟨"d/a.hbs", some "out/m/a.js", "a", "A\n"⟩, ⟨"c.hbs", some "out/m/c.js", "c", "C\n"⟩] := by
  decide +kernel

/-- Whichever of the two is compiled first makes the directory. -/
theorem source_order_immaterial_moving :
    ∃ last left compiled, (compileBatch Sample.engine Sample.moving Sample.options).outcome
        Sample.movingWorld = (.ok [⟨"d/a.hbs", some "out/m/a.js", "a", "A\n"⟩,
          ⟨"c.hbs", some "out/m/c.js", "c", "C\n"⟩], last) ∧
      (compileBatch Sample.engine (Sample.moving.withSources ["c.hbs", "d"]) Sample.options).outcome
        Sample.movingWorld = (.ok compiled, left) ∧
      left.files.tree.entries.Perm last.files.tree.entries := by
  obtain ⟨last, hrun⟩ := Action.exists_outcome Sample.compiled_moving
  obtain ⟨_, _, _, _, _, hothers⟩ := source_order_immaterial (by decide +kernel)
    (FileTree.linkless_of_entries (by decide +kernel)) rfl (by decide) Sample.moving_isDisjoint hrun
  obtain ⟨left, hleft, _, _, hfiles⟩ := hothers ["c.hbs", "d"] [] (by decide)
  exact ⟨last, left, _, hrun, hleft, hfiles⟩

end Precompiler
