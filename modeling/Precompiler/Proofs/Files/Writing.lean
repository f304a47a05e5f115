import Precompiler.Files.Write
import Precompiler.Proofs.Files.Reach

/-! Making directories and replacing files.

Each operation that writes is described once, by what it leaves when it succeeds and when it
fails. Making directories puts nothing, and makes only such directories as an ancestor of the
path names (`makeDirectories_writes`); where the directory is there already nothing happens at
all (`makeDirectories_of_isDirectory`). Replacing a file puts one content under a name in a
directory, and the temporary file leaves no trace (`replaceFile_ok_iff`); a failure to replace
one leaves the very same files (`replaceFile_error`). Files that are replaced by what they held
are the same again (`Rewrites.eq`). -/
namespace Precompiler.Files

variable {files made after : Files} {path : Path} {spot : Location} {content : ByteArray}

theorem ne_nil_of_free {tree : FileTree} (hfree : ∀ s, tree.get? spot ≠ some (.directory s)) :
    spot ≠ [] := by
  rintro rfl
  exact hfree false rfl

theorem put_file_changes (hfree : ∀ s, files.tree.get? spot ≠ some (.directory s)) :
    Changes [(spot, content)] files (files.put spot (.file content false)) where
  here := rfl
  put := by
    intro goal content' hlast
    rw [lastPut_singleton] at hlast
    split at hlast
    next heq =>
      cases hlast
      subst heq
      refine ⟨?_, hfree⟩
      show (files.tree.put goal _).get? goal = _
      rw [FileTree.get?_put _ _ _ _ (ne_nil_of_free hfree), if_pos rfl]
    next => cases hlast
  kept := by
    intro goal hlast
    rw [lastPut_singleton] at hlast
    split at hlast
    next => cases hlast
    next hne =>
      refine .inl ?_
      show (files.tree.put spot _).get? goal = _
      rw [FileTree.get?_put _ _ _ _ (ne_nil_of_free hfree), if_neg hne]

theorem get?_put_directory (hnone : files.tree.get? spot = none) (goal : Location) :
    (files.put spot (.directory false)).tree.get? goal =
      if goal = spot then some (.directory false) else files.tree.get? goal :=
  have hfree : ∀ s, files.tree.get? spot ≠ some (.directory s) := by simp [hnone]
  FileTree.get?_put _ _ _ _ (ne_nil_of_free hfree)

/-! ### Directories -/

theorem isOpen_iff : files.isOpen spot = true ↔ files.tree.get? spot = some (.directory false) := by
  unfold isOpen
  rcases files.tree.get? spot with _ | (_ | _ | _) <;> simp

theorem makeDirectory_ok (h : files.makeDirectory path = .ok made) :
    ∃ directory name, files.resolve path.dropEndSeparators false = .ok (.absent directory name) ∧
      files.isOpen directory = true ∧ made = files.put (directory ++ [name]) (.directory false) := by
  unfold makeDirectory at h
  split at h
  · cases h
  · cases h
  next directory name hresolve =>
    split at h
    next hopen =>
      cases h
      exact ⟨directory, name, hresolve, hopen, rfl⟩
    next => cases h

theorem ensureDirectory_ok (h : files.ensureDirectory path = .ok made) :
    made = files ∨ files.makeDirectory path = .ok made := by
  unfold ensureDirectory at h
  split at h
  · split at h
    · cases h
      exact .inl rfl
    · cases h
  next => exact .inr h

/-- A step that puts contents at locations and makes directories: it keeps a tree sound, and without
links each new directory is named by one of some paths. -/
structure Writes (puts : List (Location × ByteArray)) (paths : List Path) (before after : Files) :
    Prop where
  changes : Changes puts before after
  sound : before.tree.Sound → after.tree.Sound
  named : before.tree.Linkless → ∀ spot, lastPut spot puts = none → before.tree.get? spot = none →
    after.tree.get? spot ≠ none → ∃ path ∈ paths, before.spotOf path = some spot

theorem Writes.refl (paths : List Path) (files : Files) : Writes [] paths files files where
  changes := .refl files
  sound := id
  named := fun _ _ _ hnone hsome => absurd hnone hsome

theorem Writes.trans {puts more : List (Location × ByteArray)} {paths : List Path}
    {before middle after : Files} (h : Writes puts paths before middle)
    (h' : Writes more paths middle after) : Writes (puts ++ more) paths before after where
  changes := h.changes.trans h'.changes
  sound := h'.sound ∘ h.sound
  named := by
    intro hlinkless spot hlast hnone hsome
    rw [lastPut_append, Option.or_eq_none_iff] at hlast
    by_cases hmiddle : middle.tree.get? spot = none
    · obtain ⟨path, hpath, hspot⟩ :=
        h'.named (h.changes.linkless hlinkless) spot hlast.1 hmiddle hsome
      exact ⟨path, hpath, spotOf_congr h.changes.here path ▸ hspot⟩
    · exact h.named hlinkless spot hlast.2 hnone hmiddle

theorem Writes.mono {puts : List (Location × ByteArray)} {paths more : List Path}
    {before after : Files} (h : Writes puts paths before after)
    (hsub : ∀ path ∈ paths, path ∈ more) : Writes puts more before after where
  changes := h.changes
  sound := h.sound
  named := fun hlinkless spot hlast hnone hsome =>
    let ⟨path, hpath, hspot⟩ := h.named hlinkless spot hlast hnone hsome
    ⟨path, hsub path hpath, hspot⟩

theorem Writes.isSound {puts : List (Location × ByteArray)} {paths : List Path} {before after : Files}
    (h : Writes puts paths before after) (hbefore : before.Sound) : after.Sound where
  tree := h.sound hbefore.tree
  here := by
    intro here hhere
    rw [h.changes.here] at hhere
    obtain ⟨s, hget⟩ := hbefore.here here hhere
    exact ⟨s, h.changes.directory hget⟩

/-- Separators at the end of a path do not change what it means. -/
theorem spotOf_dropEndSeparators (files : Files) (path : Path) :
    files.spotOf path.dropEndSeparators = files.spotOf path := by
  obtain ⟨idle, hsegments, hidle⟩ := Path.segments_dropEndSeparators path
  have hdescend : ∀ begin : Location, FileTree.descend begin idle = begin := by
    intro begin
    clear hsegments
    induction idle with
    | nil => rfl
    | cons first idle ih =>
      rw [FileTree.descend, if_pos (hidle first List.mem_cons_self)]
      exact ih fun s hs => hidle s (List.mem_cons_of_mem first hs)
  simp only [spotOf, start, Path.isAbsolute_dropEndSeparators, hsegments, FileTree.descend_append, hdescend]

theorem makeDirectory_writes (h : files.makeDirectory path = .ok made) :
    Writes [] [path] files made := by
  obtain ⟨directory, name, hresolve, hopen, rfl⟩ := makeDirectory_ok h
  obtain ⟨_, _, _, _, hleads⟩ := resolve_eq_ok_iff.mp hresolve
  obtain ⟨hnone, hstep⟩ := hleads.agrees
  have hget := get?_put_directory hnone
  refine ⟨?_, fun hsound => ?_, ?_⟩
  · refine ⟨rfl, fun spot content hlast => by simp at hlast, fun spot _ => ?_⟩
    rw [hget]
    by_cases heq : spot = directory ++ [name]
    · exact .inr ⟨heq ▸ hnone, if_pos heq⟩
    · exact .inl (if_neg heq)
  · have hbare := hleads.absent_bare fun s hs => Path.not_mem_of_mem_segments hs
    exact hsound.put ⟨false, isOpen_iff.mp hopen⟩ ⟨hstep, hbare⟩ (by simp [FileTree.HasDirectory, hnone]) _
  · intro hlinkless spot _ hfree hsome
    rw [hget] at hsome
    by_cases heq : spot = directory ++ [name]
    · refine ⟨path, List.mem_singleton_self path, ?_⟩
      rw [← spotOf_dropEndSeparators, spotOf_of_resolve hlinkless hresolve, heq]
      rfl
    · rw [if_neg heq] at hsome
      exact absurd hfree hsome

theorem ensureDirectory_writes (h : files.ensureDirectory path = .ok made) :
    Writes [] [path] files made := by
  rcases ensureDirectory_ok h with rfl | h
  · exact .refl _ _
  · exact makeDirectory_writes h

theorem makeChain_writes (files : Files) (paths : List Path) :
    Writes [] paths files (files.makeChain paths).1 := by
  induction paths with
  | nil => exact .refl _ _
  | cons path above ih =>
    have hhead : ∀ {before after : Files}, Writes [] [path] before after →
        Writes [] (path :: above) before after := fun h => h.mono (by simp)
    have habove : Writes [] (path :: above) files (files.makeChain above).1 :=
      ih.mono fun p hp => List.mem_cons_of_mem path hp
    rw [makeChain]
    split
    · exact .refl _ _
    · split
      next made hmade => exact hhead (ensureDirectory_writes hmade)
      next =>
        split
        next made fault heq =>
          rw [heq] at habove
          exact habove
        next made heq =>
          rw [heq] at habove
          split
          next all hall => exact habove.trans (hhead (ensureDirectory_writes hall))
          next => exact habove
      next => exact .refl _ _

theorem makeDirectories_writes (files : Files) (path : Path) :
    Writes [] path.ancestors files (files.makeDirectories path).1 :=
  makeChain_writes files path.ancestors

/-- Where the directory is there already, nothing is made. -/
theorem makeDirectories_of_isDirectory (h : files.isDirectory path = true) :
    files.makeDirectories path = (files, .ok ()) := by
  obtain ⟨spot, s, hfind⟩ := isDirectory_iff.mp h
  obtain ⟨hne, husable, begin, hbegin, hleads⟩ :=
    resolve_eq_ok_iff.mp (find?_eq_some_iff.mp hfind)
  obtain ⟨idle, hsegments, hidle⟩ := Path.segments_dropEndSeparators path
  -- Without its last separators, and with its last link left alone, the path still names something.
  obtain ⟨target, hpresent, hthere⟩ := ((hsegments ▸ hleads).drop_idles hidle).unfollowed
  obtain ⟨goal, entry, rfl⟩ := hthere _ _ rfl
  have hresolve : files.resolve path.dropEndSeparators false = .ok (.present goal entry) := by
    refine resolve_eq_ok_iff.mpr ⟨fun hempty => hne ((Path.dropEndSeparators_append path).2 hempty),
      Path.isUsable_dropEndSeparators husable, begin, ?_, hpresent⟩
    rw [start, Path.isAbsolute_dropEndSeparators]
    exact hbegin
  have hoccupied : files.makeDirectory path = .error .occupied := by
    rw [makeDirectory, hresolve]
  have hensure : files.ensureDirectory path = .ok files := by
    rw [ensureDirectory, hoccupied]
    exact if_pos h
  obtain ⟨above, habove⟩ : ∃ above, path.ancestors = path :: above := by
    unfold Path.ancestors
    cases path.length with
    | zero => exact ⟨[], rfl⟩
    | succ n =>
      rw [Path.ancestorsWithin]
      cases path.parent? with
      | none => exact ⟨[], rfl⟩
      | some parent => exact ⟨_, rfl⟩
  rw [makeDirectories, habove, makeChain, hensure]
  split <;> rfl

/-! ### Replacing a file -/

/-- Whether something can be put at a target: no directory is displaced, and a new name needs a
directory that is open. -/
def Takes (files : Files) : Target → Prop
  | .present _ entry => entry.isDirectory = false
  | .absent directory _ => files.isOpen directory = true

theorem rename_ok_iff :
    files.rename spot content path = .ok after ↔
      path.endsInName = true ∧ ∃ target, files.resolve path false = .ok target ∧ files.Takes target ∧
        (files.erase spot).put target.spot (.file content false) = after := by
  unfold rename
  cases hname : path.endsInName
  · simp
  · rcases files.resolve path false with fault | ⟨goal, _ | _ | _⟩ | ⟨directory, name⟩
    · simp
    · simp [Takes, Entry.isDirectory, Target.spot]
    · simp [Takes, Entry.isDirectory, Target.spot]
    · simp [Takes, Entry.isDirectory]
    · cases hopen : files.isOpen directory <;> simp [Takes, Target.spot, hopen]

/-- The location of the file that holds new content until it takes its place. -/
def temporary (files : Files) (directory : Location) : Location := directory ++ [files.freshName]

theorem put_temporary_changes (files : Files) (directory : Location) (content : ByteArray) :
    Changes [(files.temporary directory, content)] files
      (files.put (files.temporary directory) (.file content false)) :=
  put_file_changes fun s => by simp [temporary, get?_freshName]

theorem erase_put_temporary (files : Files) (directory : Location) (entry : Entry) :
    (files.put (files.temporary directory) entry).erase (files.temporary directory) = files := by
  show Files.mk ((files.tree.put (directory ++ [files.freshName]) entry).erase
    (directory ++ [files.freshName])) files.here = files
  rw [FileTree.erase_put files.tree _ entry (get?_freshName files directory)]

theorem replaceFile_of_open {directory : Path}
    (h : files.find? directory = some (spot, .directory false)) :
    files.replaceFile directory path content =
      match (files.put (files.temporary spot) (.file content false)).rename (files.temporary spot)
        content path with
      | .ok done => (done, .ok ())
      | .error _ => (files, .error .rename) := by
  have herase := erase_put_temporary files spot (.file content false)
  unfold replaceFile
  rw [h]
  dsimp only
  unfold temporary at herase ⊢
  cases (files.put (spot ++ [files.freshName]) (.file content false)).rename
      (spot ++ [files.freshName]) content path with
  | error fault => exact Prod.ext herase rfl
  | ok done => rfl

/-- Whatever a path reaches, it still reaches with a temporary file there. -/
theorem find?_put_temporary {directory : Path} {s : Bool}
    (hfind : files.find? directory = some (spot, .directory s)) (goal : Location) :
    (files.put (files.temporary goal) (.file content false)).find? directory =
      some (spot, .directory s) := by
  refine (put_temporary_changes files goal content).find?_directory (fun other path hlink => ?_) hfind
  have hne : other ≠ files.temporary goal := by
    rintro rfl
    simp [temporary, get?_freshName] at hlink
  show (files.tree.put _ _).get? other = _
  rw [FileTree.get?_put _ _ _ _ (by simp [temporary]), if_neg hne, hlink]

theorem hasDirectory_put_temporary (goal : Location) :
    (files.put (files.temporary goal) (.file content false)).tree.HasDirectory spot ↔
      files.tree.HasDirectory spot := by
  constructor
  · rintro ⟨s, hget⟩
    have hput : (files.put (files.temporary goal) (.file content false)).tree.get? spot =
        if spot = files.temporary goal then some (.file content false) else files.tree.get? spot :=
      FileTree.get?_put _ _ _ _ (by simp [temporary])
    rw [hput] at hget
    split at hget
    · cases hget
    · exact ⟨s, hget⟩
  · rintro ⟨s, hget⟩
    exact ⟨s, (put_temporary_changes files goal content).directory hget⟩

theorem takes_targetAt {directory : Location} {name : String}
    (hopen : files.tree.get? directory = some (.directory false)) :
    files.Takes (files.tree.targetAt directory name) ↔
      ¬files.tree.HasDirectory (directory ++ [name]) := by
  unfold FileTree.targetAt FileTree.HasDirectory
  rcases files.tree.get? (directory ++ [name]) with _ | (_ | _ | _) <;>
    simp [Takes, Entry.isDirectory, isOpen_iff, hopen]

/-- A file is replaced through its directory, which has to be open: its content goes to a
temporary file there, and from it under its name, which no directory may have. -/
theorem replaceFile_ok_iff {directory : Path} {name : String} (hsplits : path.Splits directory name) :
    files.replaceFile directory path content = (after, .ok ()) ↔
      path.isUsable = true ∧ IsStep name ∧ ∃ spot,
        files.find? directory = some (spot, .directory false) ∧
        ¬files.tree.HasDirectory (spot ++ [name]) ∧
        files.put (spot ++ [name]) (.file content false) = after := by
  obtain ⟨front, hsegments, _⟩ := hsplits.segments
  have hends : path.endsInName = true ↔ Path.isIdle name = false ∧ name ≠ ".." := by
    simp [Path.endsInName, hsegments, Path.isIdle, and_assoc]
  -- With the temporary file there, the path reaches its name in the directory.
  have htarget : ∀ {spot}, files.find? directory = some (spot, .directory false) →
      path.isUsable = true → IsStep name →
      (files.put (files.temporary spot) (.file content false)).resolve path false =
        .ok ((files.put (files.temporary spot) (.file content false)).tree.targetAt spot name) :=
    fun {spot} hfind husable hstep =>
      (reaches_of_splits hsplits hstep (find?_put_temporary hfind spot)).resolve husable
  have htakes : ∀ {spot}, files.find? directory = some (spot, .directory false) →
      ((files.put (files.temporary spot) (.file content false)).Takes
          ((files.put (files.temporary spot) (.file content false)).tree.targetAt spot name) ↔
        ¬files.tree.HasDirectory (spot ++ [name])) := fun {spot} hfind => by
    rw [takes_targetAt (get?_of_find? (find?_put_temporary hfind spot)), hasDirectory_put_temporary]
  constructor
  · intro h
    rcases hfind : files.find? directory with _ | ⟨spot, _ | _ | _ | _⟩
    case some.directory.false =>
      rw [replaceFile_of_open hfind] at h
      split at h
      next done hdone =>
        cases h
        obtain ⟨hname, target, hresolve, htaken, hafter⟩ := rename_ok_iff.mp hdone
        obtain ⟨hspeaks, hup⟩ := hends.mp hname
        obtain ⟨_, husable, _⟩ := resolve_eq_ok_iff.mp hresolve
        obtain ⟨_, _, _, _, _, hstep, _⟩ := reaches_of_resolve hresolve hsegments hspeaks hup
        obtain rfl : _ = target := Except.ok.inj ((htarget hfind husable hstep).symm.trans hresolve)
        rw [erase_put_temporary, FileTree.targetAt_spot] at hafter
        exact ⟨husable, hstep, spot, rfl, (htakes hfind).mp htaken, hafter⟩
      next => simp at h
    all_goals simp [replaceFile, hfind] at h
  · rintro ⟨husable, hstep, spot, hfind, hfree, hafter⟩
    rw [replaceFile_of_open hfind, rename_ok_iff.mpr ⟨hends.mpr ⟨hstep.speaks, hstep.notUp⟩, _,
      htarget hfind husable hstep, (htakes hfind).mpr hfree, rfl⟩]
    rw [erase_put_temporary, FileTree.targetAt_spot, hafter]

theorem endsInName_of_replaceFile {directory : Path}
    (h : files.replaceFile directory path content = (after, .ok ())) : path.endsInName = true := by
  rcases hfind : files.find? directory with _ | ⟨spot, _ | _ | _ | _⟩
  case some.directory.false =>
    rw [replaceFile_of_open hfind] at h
    split at h
    next done hdone => exact (rename_ok_iff.mp hdone).1
    next => simp at h
  all_goals simp [replaceFile, hfind] at h

/-- A file that cannot be replaced leaves everything as it was. -/
theorem replaceFile_error {directory : Path} {fault : ReplaceFault}
    (h : files.replaceFile directory path content = (after, .error fault)) : after = files := by
  rcases hfind : files.find? directory with _ | ⟨spot, _ | _ | _ | _⟩
  case some.directory.false =>
    rw [replaceFile_of_open hfind] at h
    split at h
    · simp at h
    · simp only [Prod.mk.injEq] at h
      exact h.1.symm
  all_goals
    simp only [replaceFile, hfind, Prod.mk.injEq] at h
    exact h.1.symm

/-! ### Rewriting -/

section
variable {puts : List (Location × ByteArray)} {before after : Files}

/-- Contents have been put where files are. -/
structure Rewrites (puts : List (Location × ByteArray)) (before after : Files) : Prop where
  changes : Changes puts before after
  spots : after.tree.entries.map (·.1) = before.tree.entries.map (·.1)
  sound : after.tree.Sound

theorem Rewrites.refl (hsound : files.tree.Sound) : Rewrites [] files files := ⟨.refl files, rfl, hsound⟩

theorem Rewrites.put (h : Rewrites puts before after) {content : ByteArray} {x : Bool}
    (hfile : before.tree.get? spot = some (.file content x)) (new : ByteArray) :
    Rewrites (puts ++ [(spot, new)]) before (after.put spot (.file new false)) := by
  obtain ⟨content', x', hget⟩ := h.changes.file hfile
  have hfree : ∀ s, after.tree.get? spot ≠ some (.directory s) := by simp [hget]
  have hne := ne_nil_of_free hfree
  refine ⟨h.changes.trans (put_file_changes hfree), ?_, ?_⟩
  · have hmem := List.mem_map_of_mem (f := (·.1)) (h.sound.mem_iff.mpr ⟨hne, hget⟩)
    exact ((FileTree.map_fst_putIn spot _ _).trans (if_pos hmem)).trans h.spots
  · rcases List.eq_nil_or_concat spot with rfl | ⟨directory, name, rfl⟩
    · exact absurd rfl hne
    · rw [List.concat_eq_append] at hget hfree ⊢
      obtain ⟨hname, hdirectory⟩ := h.sound.parent hget
      exact h.sound.put hdirectory hname (fun ⟨s, hs⟩ => hfree s hs) _

/-- Files whose contents have been rewritten with the same are the same. -/
theorem Rewrites.eq (h : Rewrites puts before after)
    (hsame : ∀ spot content, lastPut spot puts = some content →
      before.tree.get? spot = some (.file content false)) : after = before := by
  have htree : before.tree = after.tree := h.sound.eq_of_get? h.spots.symm fun spot => by
    rcases hput : lastPut spot puts with _ | content
    · rcases h.changes.kept spot hput with heq | ⟨hnone, hnew⟩
      · exact heq.symm
      · -- A new directory would be a new location.
        have hne : spot ≠ [] := by
          rintro rfl
          cases hnone
        have hmem := List.mem_map_of_mem (f := (·.1)) (h.sound.mem_iff.mpr ⟨hne, hnew⟩)
        rw [h.spots] at hmem
        obtain ⟨e, he, rfl⟩ := List.mem_map.mp hmem
        have honce : (before.tree.entries.map (·.1)).Nodup := h.spots ▸ h.sound.once
        have hget : before.tree.get? e.1 = some e.2 := by
          rw [FileTree.get?, if_neg hne]
          exact FileTree.lookup_of_mem honce he
        simp [hget] at hnone
    · rw [hsame spot content hput, (h.changes.put spot content hput).1]
  have hhere := h.changes.here
  cases before
  cases after
  simp_all

end

end Precompiler.Files
