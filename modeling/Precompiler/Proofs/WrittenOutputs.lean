import Precompiler.Proofs.Charsets
import Precompiler.Proofs.Files.Visits
import Precompiler.Proofs.Outputs
import Precompiler.Proofs.Sample

/-! Outputs read back.

What `Outputs` says of trees without links holds of all trees, up to one thing. Making directories makes
those that an ancestor of the path names, links on its way included (`makeDirectories_makes`). The file
that is written stands where the path leads to without its last link, and nothing else is different
(`writeOutput_atomic`). But a link that the file displaces may itself be on the way to the file, and then
the way ends at the file that the path was to name (`not_found_through`, `unreadable_through_link`). On any
other way the path names the file, and in the same charset its text is read back (`found_beside`). -/
namespace Precompiler

/-! ### The directories that are made -/

/-- A way to a free name leads to the directory that is made there. -/
theorem FileTree.Leads.made {tree other : FileTree} {n : Nat} {begin directory : Location} {name : String}
    {segments : List String}
    (hkept : ∀ spot entry, tree.get? spot = some entry → other.get? spot = some entry)
    (hnew : other.get? (directory ++ [name]) = some (.directory false))
    (h : tree.Leads false n begin segments (.absent directory name)) :
    other.Leads true n begin segments (.present (directory ++ [name]) (.directory false)) := by
  generalize htarget : Target.absent directory name = target at h
  induction h with
  | here _ | present _ _ _ => cases htarget
  | idle hidle _ ih => exact .idle hidle (ih htarget)
  | up _ ih => exact .up (ih htarget)
  | absent hstep _ =>
    obtain ⟨rfl, rfl⟩ := Target.absent.inj htarget
    exact .present hstep hnew nofun
  | enter hstep hget hrest _ ih => exact .enter hstep (hkept _ _ hget) hrest (ih htarget)
  | link hstep hget _ _ ih => exact .link hstep (hkept _ _ hget) (fun _ => rfl) (ih htarget)

namespace Files

variable {files before middle after made : Files} {paths more : List Path} {path above : Path}
  {spot goal directory : Location} {name : String} {content : ByteArray} {x : Bool}

/-- Directories have been made where nothing stood, and each is named by one of some paths. -/
structure Makes (paths : List Path) (before after : Files) : Prop where
  changes : Changes [] before after
  named : ∀ spot, before.tree.get? spot = none → after.tree.get? spot ≠ none →
    ∃ above ∈ paths, after.find? above = some (spot, .directory false)

theorem Makes.kept {entry : Entry} (h : Makes paths before after) (hget : before.tree.get? spot = some entry) :
    after.tree.get? spot = some entry := by
  rcases h.changes.kept spot rfl with heq | ⟨hnone, _⟩
  · rw [heq, hget]
  · cases hnone.symm.trans hget

theorem Makes.refl (paths : List Path) (files : Files) : Makes paths files files :=
  ⟨.refl files, fun _ hnone hsome => absurd hnone hsome⟩

theorem Makes.mono (h : Makes paths before after) (hsub : ∀ path ∈ paths, path ∈ more) :
    Makes more before after :=
  ⟨h.changes, fun spot hnone hsome =>
    let ⟨above, habove, hfind⟩ := h.named spot hnone hsome
    ⟨above, hsub above habove, hfind⟩⟩

theorem Makes.trans (h : Makes paths before middle) (h' : Makes paths middle after) :
    Makes paths before after where
  changes := h.changes.trans h'.changes
  named := by
    intro spot hnone hsome
    by_cases hmiddle : middle.tree.get? spot = none
    · exact h'.named spot hmiddle hsome
    · obtain ⟨above, habove, hfind⟩ := h.named spot hnone hmiddle
      exact ⟨above, habove, h'.changes.find?_directory (fun _ _ => h'.kept) hfind⟩

theorem makeDirectory_makes (hpath : path.dropEndSeparators = path) (h : files.makeDirectory path = .ok made) :
    Makes [path] files made := by
  have hchanges := (makeDirectory_writes h).changes
  obtain ⟨directory, name, hresolve, _, rfl⟩ := makeDirectory_ok h
  rw [hpath] at hresolve
  obtain ⟨hne, husable, begin, hbegin, hleads⟩ := resolve_eq_ok_iff.mp hresolve
  have hget := get?_put_directory hleads.agrees.1
  refine ⟨hchanges, fun spot hnone hsome => ⟨path, List.mem_singleton_self path, ?_⟩⟩
  have hspot : spot = directory ++ [name] := by
    by_contra hother
    exact hsome ((hget spot).trans ((if_neg hother).trans hnone))
  subst hspot
  refine find?_eq_some_iff.mpr (resolve_eq_ok_iff.mpr ⟨hne, husable, begin, hbegin, ?_⟩)
  refine hleads.made (fun spot entry hthere => (hget spot).trans ?_) ((hget _).trans (if_pos rfl))
  rw [if_neg, hthere]
  rintro rfl
  cases hleads.agrees.1.symm.trans hthere

theorem ensureDirectory_makes (hpath : path.dropEndSeparators = path)
    (h : files.ensureDirectory path = .ok made) : Makes [path] files made := by
  rcases ensureDirectory_ok h with rfl | h
  · exact .refl _ _
  · exact makeDirectory_makes hpath h

theorem makeChain_makes (files : Files) (hpaths : ∀ path ∈ paths, path.dropEndSeparators = path) :
    Makes paths files (files.makeChain paths).1 := by
  induction paths with
  | nil => exact .refl _ _
  | cons path above ih =>
    have hhead : ∀ {before after : Files}, before.ensureDirectory path = .ok after →
        Makes (path :: above) before after := fun h =>
      (ensureDirectory_makes (hpaths path List.mem_cons_self) h).mono (by simp)
    have habove : Makes (path :: above) files (files.makeChain above).1 :=
      (ih fun p hp => hpaths p (List.mem_cons_of_mem path hp)).mono fun p hp => List.mem_cons_of_mem path hp
    rw [makeChain]
    split
    · exact .refl _ _
    · split
      next made hmade => exact hhead hmade
      next =>
        split
        next made fault heq =>
          rw [heq] at habove
          exact habove
        next made heq =>
          rw [heq] at habove
          split
          next all hall => exact habove.trans (hhead hall)
          next => exact habove
      next => exact .refl _ _

/-- The directories that are made are named by the path or by one of its ancestors. -/
theorem makeDirectories_makes (files : Files) (hpath : path.dropEndSeparators = path) :
    Makes path.ancestors files (files.makeDirectories path).1 :=
  makeChain_makes files fun _ habove => Path.dropEndSeparators_ancestors hpath habove

/-! ### The way to a file -/

/-- A path finds the file under the name that it reaches. -/
theorem find?_file_of_reaches (h : files.Reaches path directory name) (husable : path.isUsable = true)
    (hget : files.tree.get? (directory ++ [name]) = some (.file content x)) :
    files.find? path = some (directory ++ [name], .file content x) := by
  obtain ⟨hne, _, _⟩ := resolve_eq_ok_iff.mp (h.resolve husable)
  obtain ⟨front, begin, m, hsegments, hstep, hbegin, henters⟩ := h
  refine find?_eq_some_iff.mpr (resolve_eq_ok_iff.mpr ⟨hne, husable, begin, hbegin, ?_⟩)
  refine FileTree.follow_eq_ok_iff.mp ?_
  rw [hsegments, henters true [name] (List.cons_ne_nil name []), FileTree.follow_step hstep, hget]
  rfl

theorem get?_put_open (h : files.OpenTo path goal) (entry : Entry) (spot : Location) :
    (files.put goal entry).tree.get? spot = if spot = goal then some entry else files.tree.get? spot :=
  FileTree.get?_put _ _ _ _ (ne_nil_of_free fun s hget => h.free ⟨s, hget⟩)

/-- What an open path has put it names, unless the way to its directory visits that place. -/
theorem found_beside (h : files.OpenTo path goal) (hway : ¬files.Visits (outputDirectory path) goal) :
    (files.put goal (.file content x)).find? path = some (goal, .file content x) := by
  have hget := get?_put_open h (.file content x)
  obtain ⟨directory, name, hsplits, hstep, hfind, rfl⟩ := h.place
  obtain ⟨hne, husable, begin, hbegin, hleads⟩ := resolve_eq_ok_iff.mp (find?_eq_some_iff.mp hfind)
  have hstill : (files.put (directory ++ [name]) (.file content x)).find? (outputDirectory path) =
      some (directory, .directory false) := by
    refine find?_eq_some_iff.mpr (resolve_eq_ok_iff.mpr ⟨hne, husable, begin, hbegin, ?_⟩)
    exact hleads.of_not_visits (fun spot hspot => (hget spot).trans (if_neg hspot))
      fun hvisits => hway ⟨begin, hbegin, hvisits⟩
  exact find?_file_of_reaches (reaches_of_splits hsplits hstep hstill) h.usable ((hget _).trans (if_pos rfl))

/-- The way to the directory of an open path visits its place only through a link there. -/
theorem link_of_visits (h : files.OpenTo path goal) (hway : files.Visits (outputDirectory path) goal) :
    ∃ target, files.tree.get? goal = some (.link target) := by
  obtain ⟨directory, _, _, _, hfind, _⟩ := h.place
  obtain ⟨_, _, begin, hbegin, hleads⟩ := resolve_eq_ok_iff.mp (find?_eq_some_iff.mp hfind)
  obtain ⟨begin', hbegin', hvisits⟩ := hway
  cases hbegin.symm.trans hbegin'
  obtain ⟨entry, hget⟩ := hvisits.exists_entry
  rcases entry with ⟨content, x⟩ | target | s
  · -- At a file the way would end, and it goes on to the directory itself.
    obtain ⟨m, henters⟩ := hleads.enters_directory
    have hblocked := hvisits.blocked (fun _ _ => rfl) (fun s hs => h.free ⟨s, hs⟩) hget hleads
      (List.cons_ne_nil "." [])
    rw [henters true ["."] (List.cons_ne_nil "." []), FileTree.follow_idle (by decide), FileTree.follow_nil,
      get?_of_find? hfind] at hblocked
    cases hblocked
  · exact ⟨target, hget⟩
  · exact absurd ⟨s, hget⟩ h.free

/-- What an open path has put it does not name if the way to its directory visits that place. -/
theorem not_found_through (h : files.OpenTo path goal) (hway : files.Visits (outputDirectory path) goal) :
    (files.put goal (.file content x)).find? path = none := by
  have hget := get?_put_open h (.file content x)
  obtain ⟨directory, name, hsplits, _, hfind, _⟩ := h.place
  obtain ⟨_, _, begin, hbegin, hleads⟩ := resolve_eq_ok_iff.mp (find?_eq_some_iff.mp hfind)
  obtain ⟨begin', hbegin', hvisits⟩ := hway
  cases hbegin.symm.trans hbegin'
  obtain ⟨front, hsegments, hspeaking⟩ := hsplits.segments
  have hsome := List.cons_ne_nil name []
  have hblocked : (files.put goal (.file content x)).tree.follow true maxLinks begin
      ([] ++ ((outputDirectory path).segments ++ [name])) = .error .notDirectory := by
    rw [List.nil_append]
    exact hvisits.blocked (fun spot hspot => (hget spot).trans (if_neg hspot)) (fun s hs => h.free ⟨s, hs⟩)
      ((hget goal).trans (if_pos rfl)) hleads hsome
  rw [FileTree.follow_speaking hsome, hspeaking, ← FileTree.follow_speaking hsome, List.nil_append,
    ← hsegments] at hblocked
  have hstart : (files.put goal (.file content x)).start path = some begin := by
    rw [← hbegin, start, start, hsplits.isAbsolute]
    rfl
  rw [find?_eq_found?, hstart, Option.bind_some, hblocked]
  exact ite_self _

end Files

/-! ### Writing and reading -/

variable {charset : Charset} {path : Path} {text : String} {world left : World} {failure : Failure}

/-- No path of an output directory ends in a separator, but for the root. -/
theorem dropEndSeparators_outputDirectory (path : Path) :
    (outputDirectory path).dropEndSeparators = outputDirectory path := by
  unfold outputDirectory
  split
  next parent hparent =>
    split
    · decide
    · exact Path.dropEndSeparators_parent? hparent
  next => decide

theorem readText_of_find? {bytes : ByteArray} {spot : Location} {x : Bool}
    (hbytes : charset.encode text path = .ok bytes)
    (hfind : world.files.find? path = some (spot, .file bytes x)) :
    (readText charset path).outcome world = (.ok text, world) := by
  have hread : world.files.read? path = some bytes := Files.read?_eq_some_iff.mpr ⟨spot, x, hfind⟩
  have hdecode : charset.decode bytes path = .ok text :=
    Charset.decode_eq_ok_iff.mpr (Charset.decode?_eq_some_iff.mpr (Charset.encode_eq_ok_iff.mp hbytes))
  rw [readText, Action.outcome_bind_ok (Action.outcome_files world), hread]
  exact (Action.outcome_ofExcept _ _).trans (by rw [hdecode])

/-- A text has been written: directories have been made, and the place where its path leads in them
without its last link, which no directory had, holds the encoded text. Nothing else is different. -/
structure Written (charset : Charset) (path : Path) (text : String) (world : World) (made : Files)
    (goal : Location) (bytes : ByteArray) (left : World) : Prop where
  encoded : charset.encode text path = .ok bytes
  makes : Files.Makes (outputDirectory path).ancestors world.files made
  leads : ∃ target, made.resolve path false = .ok target ∧ target.spot = goal
  free : ∀ s, world.files.tree.get? goal ≠ some (.directory s)
  content : left.files.tree.get? goal = some (.file bytes false)
  others : ∀ spot, spot ≠ goal → left.files.tree.get? spot = made.tree.get? spot
  here : left.files.here = world.files.here
  journal : left.journal = world.journal

/-- A text that cannot be written is to blame itself, or its directory, or what has its path. -/
inductive Unwritten (charset : Charset) (path : Path) (text : String) : Failure → Prop where
  | unencoded {failure : Failure} : charset.encode text path = .error failure → Unwritten charset path text failure
  | unmade : Unwritten charset path text (.io (.creatingDirectory (outputDirectory path)))
  | unopened : Unwritten charset path text (.io (.creatingTemporary (outputDirectory path)))
  | unplaced : Unwritten charset path text (.io (.writing path))

theorem writeOutput_written (h : (writeOutput charset path text).outcome world = (.ok (), left)) :
    ∃ made goal bytes, Written charset path text world made goal bytes left ∧ made.OpenTo path goal ∧
      left.files = made.put goal (.file bytes false) := by
  obtain ⟨bytes, made, goal, hbytes, hmade, hopen, rfl⟩ := writeOutput_ok_iff.mp h
  have hmakes := Files.makeDirectories_makes world.files (dropEndSeparators_outputDirectory path)
  rw [hmade] at hmakes
  have hget := Files.get?_put_open hopen (.file bytes false)
  refine ⟨made, goal, bytes, ⟨hbytes, hmakes, hopen.resolve, fun s hs => ?_, ?_, fun spot hspot => ?_,
    hmakes.changes.here, rfl⟩, hopen, rfl⟩
  · exact hopen.free ⟨s, hmakes.kept hs⟩
  · exact (hget goal).trans (if_pos rfl)
  · exact (hget spot).trans (if_neg hspot)

theorem writeOutput_unwritten (h : (writeOutput charset path text).outcome world = (.error failure, left)) :
    Unwritten charset path text failure ∧ left.journal = world.journal ∧
      Files.Makes (outputDirectory path).ancestors world.files left.files := by
  have hmakes := Files.makeDirectories_makes world.files (dropEndSeparators_outputDirectory path)
  rcases hbytes : charset.encode text path with other | bytes
  · rw [writeOutput_unencoded hbytes] at h
    cases h
    exact ⟨.unencoded hbytes, rfl, .refl _ _⟩
  rcases hmade : world.files.makeDirectories (outputDirectory path) with ⟨made, fault | _⟩ <;>
    rw [hmade] at hmakes
  · rw [writeOutput_unmade hbytes hmade] at h
    cases h
    exact ⟨.unmade, rfl, hmakes⟩
  rcases hreplaced : made.replaceFile (outputDirectory path) path bytes with ⟨after, fault | _⟩ <;>
    rw [writeOutput_made hbytes hmade hreplaced] at h <;> cases h
  refine ⟨?_, rfl, Files.replaceFile_error hreplaced ▸ hmakes⟩
  cases fault
  · exact .unopened
  · exact .unplaced

/-- **An output is written whole or not at all, and can be read back.** If it is written, one place is
different but for new directories on the way: it holds the encoded text. The path then names this file, and
in the same charset its text is read, unless the way to its directory goes through a link at this
place, which the file has displaced; then the path names nothing. If it is not written, new directories
on the way are all that is different, and not even these where the charset cannot hold the text. -/
theorem writeOutput_atomic (charset : Charset) (path : Path) (text : String) (world : World) :
    (∀ left, (writeOutput charset path text).outcome world = (.ok (), left) →
      ∃ made goal bytes, Written charset path text world made goal bytes left ∧
        (¬made.Visits (outputDirectory path) goal →
          left.files.find? path = some (goal, .file bytes false) ∧
          (readText charset path).outcome left = (.ok text, left)) ∧
        (made.Visits (outputDirectory path) goal →
          (∃ target, world.files.tree.get? goal = some (.link target)) ∧ left.files.find? path = none)) ∧
    (∀ failure left, (writeOutput charset path text).outcome world = (.error failure, left) →
      Unwritten charset path text failure ∧ left.journal = world.journal ∧
        Files.Makes (outputDirectory path).ancestors world.files left.files) ∧
    ∀ failure, charset.encode text path = .error failure →
      (writeOutput charset path text).outcome world = (.error failure, world) := by
  refine ⟨fun left h => ?_, fun failure left h => writeOutput_unwritten h, fun failure hbytes =>
    writeOutput_unencoded hbytes⟩
  obtain ⟨made, goal, bytes, hwritten, hopen, hfiles⟩ := writeOutput_written h
  refine ⟨made, goal, bytes, hwritten, fun hway => ?_, fun hway => ?_⟩
  · have hfind : left.files.find? path = some (goal, .file bytes false) :=
      hfiles ▸ Files.found_beside hopen hway
    exact ⟨hfind, readText_of_find? hwritten.encoded hfind⟩
  · obtain ⟨target, hlink⟩ := Files.link_of_visits hopen hway
    exact ⟨⟨target, hwritten.makes.changes.of_link hlink⟩, hfiles ▸ Files.not_found_through hopen hway⟩

/-- A directory, and a link to it. -/
def Sample.linkedShelf : World := ⟨⟨⟨[(["d"], .directory false), (["l"], .link "d")]⟩, some []⟩, []⟩

/-- Through the link a directory is made and a text written and read, and where the directory stands
no text is written. -/
theorem writeOutput_atomic_linked :
    (∃ left spot bytes, (writeOutput .latin1 "l/neu/a.js" "ä").outcome Sample.linkedShelf = (.ok (), left) ∧
      left.files.find? "l/neu/a.js" = some (spot, .file bytes false) ∧
      (readText .latin1 "l/neu/a.js").outcome left = (.ok "ä", left)) ∧
    ∃ left, (writeOutput .latin1 "d" "ä").outcome Sample.linkedShelf = (.error (.io (.writing "d")), left) ∧
      Files.Makes (outputDirectory "d").ancestors Sample.linkedShelf.files left.files := by
  have hdone : ((writeOutput .latin1 "l/neu/a.js" "ä").outcome Sample.linkedShelf).1 = .ok () := by
    decide +kernel
  have hfound : (((writeOutput .latin1 "l/neu/a.js" "ä").outcome Sample.linkedShelf).2.files.find?
      "l/neu/a.js").isSome = true := by
    decide +kernel
  have hrefused : ((writeOutput .latin1 "d" "ä").outcome Sample.linkedShelf).1 =
      .error (.io (.writing "d")) := by
    decide +kernel
  obtain ⟨left, hleft⟩ := Action.exists_outcome hdone
  obtain ⟨kept, hkept⟩ := Action.exists_outcome hrefused
  rw [hleft] at hfound
  obtain ⟨made, goal, bytes, _, hbeside, hthrough⟩ :=
    (writeOutput_atomic .latin1 "l/neu/a.js" "ä" Sample.linkedShelf).1 left hleft
  have hway : ¬made.Visits (outputDirectory "l/neu/a.js") goal := by
    intro hvisits
    rw [(hthrough hvisits).2] at hfound
    cases hfound
  obtain ⟨hfind, hread⟩ := hbeside hway
  exact ⟨⟨left, goal, bytes, hleft, hfind, hread⟩, kept, hkept,
    ((writeOutput_atomic .latin1 "d" "ä" Sample.linkedShelf).2.1 _ kept hkept).2.2⟩

/-- A link to the directory in which it stands. -/
def Sample.loop : World := ⟨⟨⟨[(["l"], .link ".")]⟩, some []⟩, []⟩

/-- Through such a link its own path leads to it. A text is written there, and its path names nothing,
since the link that the path went through has become the file. -/
theorem unreadable_through_link :
    ∃ left, (writeOutput .utf8 "l/l" "T").outcome Sample.loop = (.ok (), left) ∧
      left.files.find? "l/l" = none ∧
      (readText .utf8 "l/l").outcome left = (.error (.io (.reading "l/l")), left) := by
  have hdone : ((writeOutput .utf8 "l/l" "T").outcome Sample.loop).1 = .ok () := by decide +kernel
  have hlost : (((writeOutput .utf8 "l/l" "T").outcome Sample.loop).2.files.find? "l/l") = none := by
    decide +kernel
  obtain ⟨left, hleft⟩ := Action.exists_outcome hdone
  rw [hleft] at hlost
  have hread : left.files.read? "l/l" = none := by rw [Files.read?, hlost]
  refine ⟨left, hleft, hlost, ?_⟩
  rw [readText, Action.outcome_bind_ok (Action.outcome_files left), hread]
  exact Action.outcome_throw _ _

end Precompiler
