import Precompiler.Output
import Precompiler.Proofs.Actions
import Precompiler.Proofs.Files.Writing

/-! Writing outputs.

An output is written whole or not at all. If it is written, directories may have been made
first, in which its path is open to a file at one location, and just this location then holds
the encoded text (`writeOutput_ok_iff`). If not, directories may have been made and nothing
else has happened (`writeOutput_error`). What a path was open to it is still open to later, as
long as no directory takes the place (`OpenTo.later`). -/
namespace Precompiler

variable {path : Path} {name : String}

/-- The directory of an output is the one that its path splits off. -/
theorem splits_outputDirectory {front : List String} (hsegments : path.segments = front ++ [name])
    (hname : Path.isIdle name = false) : path.Splits (outputDirectory path) name := by
  have hfront := (Path.bare_of_segments hsegments).1
  have hdirectory : outputDirectory path =
      if Path.directoryPath front == "" then "." else Path.directoryPath front := by
    rw [outputDirectory, Path.parent?_of_segments hsegments hname]
  have hspeaking := Path.speaking_directoryPath hfront
  have habsolute := Path.isAbsolute_directoryPath hsegments
  by_cases hempty : Path.directoryPath front = ""
  · rw [hempty] at hspeaking habsolute
    have hdot : outputDirectory path = "." := by rw [hdirectory, hempty]; rfl
    exact ⟨⟨front, hsegments, by rw [hdot, ← hspeaking]; decide⟩, by rw [hdot, ← habsolute]; decide⟩
  · have hparent : outputDirectory path = Path.directoryPath front := by
      rw [hdirectory, if_neg (by simpa using hempty)]
    exact ⟨⟨front, hsegments, by rw [hparent, hspeaking]⟩, by rw [hparent, habsolute]⟩

namespace Files

variable {files after : Files} {goal : Location} {content : ByteArray} {puts : List (Location × ByteArray)}

/-- A path is open to a file at a location: its directory is there and takes new entries, and no
directory has its name. -/
structure OpenTo (files : Files) (path : Path) (goal : Location) : Prop where
  usable : path.isUsable = true
  place : ∃ directory name, path.Splits (outputDirectory path) name ∧ IsStep name ∧
    files.find? (outputDirectory path) = some (directory, .directory false) ∧ goal = directory ++ [name]
  free : ¬files.tree.HasDirectory goal

theorem replaceFile_eq_ok_iff :
    files.replaceFile (outputDirectory path) path content = (after, .ok ()) ↔
      ∃ goal, files.OpenTo path goal ∧ files.put goal (.file content false) = after := by
  constructor
  · intro h
    obtain ⟨front, name, hsegments, hidle⟩ :
        ∃ front name, path.segments = front ++ [name] ∧ Path.isIdle name = false := by
      refine ⟨_, _, (List.dropLast_concat_getLast (Path.segments_ne_nil path)).symm, ?_⟩
      have hends := endsInName_of_replaceFile h
      rw [Path.endsInName, List.getLast?_eq_some_getLast (Path.segments_ne_nil path)] at hends
      simp only [Bool.not_or, Bool.and_eq_true, Bool.not_eq_true'] at hends
      rw [Path.isIdle, hends.1.1, hends.1.2]
      rfl
    have hsplits := splits_outputDirectory hsegments hidle
    obtain ⟨husable, hstep, directory, hfind, hfree, hafter⟩ := (replaceFile_ok_iff hsplits).mp h
    exact ⟨_, ⟨husable, ⟨directory, name, hsplits, hstep, hfind, rfl⟩, hfree⟩, hafter⟩
  · rintro ⟨_, ⟨husable, ⟨directory, name, hsplits, hstep, hfind, rfl⟩, hfree⟩, hafter⟩
    exact (replaceFile_ok_iff hsplits).mpr ⟨husable, hstep, directory, hfind, hfree, hafter⟩

/-- An open path leads to its location, whatever stands there. -/
theorem OpenTo.resolve (h : files.OpenTo path goal) :
    ∃ target, files.resolve path false = .ok target ∧ target.spot = goal := by
  obtain ⟨directory, name, hsplits, hstep, hfind, rfl⟩ := h.place
  exact ⟨_, (reaches_of_splits hsplits hstep hfind).resolve h.usable, FileTree.targetAt_spot⟩

/-- Without links an open path means its location. -/
theorem OpenTo.spotOf (h : files.OpenTo path goal) (hlinkless : files.tree.Linkless) :
    files.spotOf path = some goal := by
  obtain ⟨target, hresolve, rfl⟩ := h.resolve
  exact spotOf_of_resolve hlinkless hresolve

/-- The last segment of an open path is a name, and that of its location. -/
theorem OpenTo.named (h : files.OpenTo path goal) {front : List String}
    (hsegments : path.segments = front ++ [name]) : IsStep name ∧ goal.getLast? = some name := by
  obtain ⟨directory, last, hsplits, hstep, _, rfl⟩ := h.place
  obtain ⟨_, hlast, _⟩ := hsplits.segments
  obtain rfl : last = name := by
    have hname := (List.append_inj' (hlast.symm.trans hsegments) rfl).2
    exact (List.cons.inj hname).1
  exact ⟨hstep, List.getLast?_concat⟩

theorem OpenTo.changes (h : files.OpenTo path goal) (content : ByteArray) :
    Changes [(goal, content)] files (files.put goal (.file content false)) :=
  put_file_changes fun s hget => h.free ⟨s, hget⟩

theorem OpenTo.sound (h : files.OpenTo path goal) (hsound : files.tree.Sound) (content : ByteArray) :
    (files.put goal (.file content false)).tree.Sound := by
  obtain ⟨directory, name, hsplits, hstep, hfind, rfl⟩ := h.place
  exact hsound.put ⟨false, get?_of_find? hfind⟩ ⟨hstep, hsplits.bare⟩ h.free _

/-- Without links a path stays open to a location until a directory takes the place. -/
theorem OpenTo.later (h : files.OpenTo path goal) (hlinkless : files.tree.Linkless)
    (hchanges : Changes puts files after) (hfree : ¬after.tree.HasDirectory goal) :
    after.OpenTo path goal := by
  obtain ⟨directory, name, hsplits, hstep, hfind, hgoal⟩ := h.place
  have hkept := hchanges.find?_directory (fun spot path hget => absurd hget (hlinkless spot path)) hfind
  exact ⟨h.usable, ⟨directory, name, hsplits, hstep, hkept, hgoal⟩, hfree⟩

theorem OpenTo.writes (h : files.OpenTo path goal) (paths : List Path) (content : ByteArray) :
    Writes [(goal, content)] paths files (files.put goal (.file content false)) where
  changes := h.changes content
  sound := fun hsound => h.sound hsound content
  named := by
    intro _ spot hlast hnone hsome
    obtain ⟨directory, name, _, _, _, rfl⟩ := h.place
    rw [lastPut_singleton] at hlast
    split at hlast
    · cases hlast
    next hne =>
      have hput : (files.put (directory ++ [name]) (.file content false)).tree.get? spot =
          files.tree.get? spot :=
        (FileTree.get?_put _ _ _ _ (by simp)).trans (if_neg hne)
      exact absurd (hput.trans hnone) hsome

/-- Where a path is open no directory needs to be made for it. -/
theorem OpenTo.makeDirectories (h : files.OpenTo path goal) :
    files.makeDirectories (outputDirectory path) = (files, .ok ()) := by
  obtain ⟨directory, _, _, _, hfind, _⟩ := h.place
  exact makeDirectories_of_isDirectory (isDirectory_iff.mpr ⟨directory, false, hfind⟩)

end Files

variable {charset : Charset} {text : String} {world left : World} {bytes : ByteArray} {made after : Files}

/-! ### One effect after another -/

theorem writeOutput_unencoded {failure : Failure} (hbytes : charset.encode text path = .error failure) :
    (writeOutput charset path text).outcome world = (.error failure, world) := by
  rw [writeOutput, hbytes, Action.outcome_bind, Action.outcome_ofExcept]

theorem writeOutput_unmade {fault : PathFault} (hbytes : charset.encode text path = .ok bytes)
    (hmade : world.files.makeDirectories (outputDirectory path) = (made, .error fault)) :
    (writeOutput charset path text).outcome world =
      (.error (.io (.creatingDirectory (outputDirectory path))), {world with files := made}) := by
  rw [writeOutput, hbytes, Action.outcome_bind_ok (Action.outcome_ofExcept _ _),
    Action.outcome_bind_ok (Action.outcome_files world), hmade]
  rfl

theorem writeOutput_made {replaced : Except Files.ReplaceFault Unit}
    (hbytes : charset.encode text path = .ok bytes)
    (hmade : world.files.makeDirectories (outputDirectory path) = (made, .ok ()))
    (hreplaced : made.replaceFile (outputDirectory path) path bytes = (after, replaced)) :
    (writeOutput charset path text).outcome world =
      (replaced.mapError (replaceFailure path), {world with files := after}) := by
  rw [writeOutput, hbytes, Action.outcome_bind_ok (Action.outcome_ofExcept _ _),
    Action.outcome_bind_ok (Action.outcome_files world), hmade]
  dsimp only
  rw [hreplaced]
  cases replaced <;> rfl

theorem writeOutput_blind (charset : Charset) (path : Path) (text : String) :
    (writeOutput charset path text).Blind := by
  refine (Action.Looks.ofExcept _).blind.bind fun bytes => Action.Looks.files.blind.bind fun files => ?_
  refine (Action.Blind.setFiles _).bind fun _ => (Action.Looks.ofExcept _).blind.bind fun _ => ?_
  exact (Action.Blind.setFiles _).bind fun _ => (Action.Looks.ofExcept _).blind

/-! ### All or nothing -/

/-- An output is written where its path is open once the directories are made. -/
theorem writeOutput_ok_iff :
    (writeOutput charset path text).outcome world = (.ok (), left) ↔
      ∃ bytes made goal, charset.encode text path = .ok bytes ∧
        world.files.makeDirectories (outputDirectory path) = (made, .ok ()) ∧
        made.OpenTo path goal ∧ left = {world with files := made.put goal (.file bytes false)} := by
  constructor
  · intro h
    rcases hbytes : charset.encode text path with failure | bytes
    · simp [writeOutput_unencoded hbytes] at h
    rcases hmade : world.files.makeDirectories (outputDirectory path) with ⟨made, fault | _⟩
    · simp [writeOutput_unmade hbytes hmade] at h
    rcases hreplaced : made.replaceFile (outputDirectory path) path bytes with ⟨after, fault | _⟩
    · simp [writeOutput_made hbytes hmade hreplaced, Except.mapError] at h
    rw [writeOutput_made hbytes hmade hreplaced] at h
    cases h
    obtain ⟨goal, hopen, rfl⟩ := Files.replaceFile_eq_ok_iff.mp hreplaced
    exact ⟨bytes, made, goal, rfl, rfl, hopen, rfl⟩
  · rintro ⟨bytes, made, goal, hbytes, hmade, hopen, rfl⟩
    rw [writeOutput_made hbytes hmade (Files.replaceFile_eq_ok_iff.mpr ⟨goal, hopen, rfl⟩)]
    rfl

/-- An output that is not written leaves directories at most, and the engine is not blamed. -/
theorem writeOutput_error {failure : Failure}
    (h : (writeOutput charset path text).outcome world = (.error failure, left)) :
    left.journal = world.journal ∧
      Files.Writes [] (outputDirectory path).ancestors world.files left.files ∧
      ∀ file message, failure ≠ .compile file message := by
  have hwrites := Files.makeDirectories_writes world.files (outputDirectory path)
  rcases hbytes : charset.encode text path with other | bytes
  · rw [writeOutput_unencoded hbytes] at h
    cases h
    refine ⟨rfl, .refl _ _, ?_⟩
    rintro file message rfl
    unfold Charset.encode at hbytes
    split at hbytes <;> cases hbytes
  rcases hmade : world.files.makeDirectories (outputDirectory path) with ⟨made, fault | _⟩ <;>
    rw [hmade] at hwrites
  · rw [writeOutput_unmade hbytes hmade] at h
    cases h
    exact ⟨rfl, hwrites, by simp⟩
  rcases hreplaced : made.replaceFile (outputDirectory path) path bytes with ⟨after, fault | _⟩ <;>
    rw [writeOutput_made hbytes hmade hreplaced] at h <;> cases h
  refine ⟨rfl, Files.replaceFile_error hreplaced ▸ hwrites, fun file message => ?_⟩
  cases fault <;> simp [replaceFailure]

end Precompiler
