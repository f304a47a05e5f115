import Precompiler.Proofs.Files.Changes
import Precompiler.Proofs.Files.Sound

/-! Names in directories.

A path that ends in a name says where something is, or would be: the segments before the name
lead into a directory, and the name is looked up there (`Reaches.resolve`). Paths made out of
others reach names in the same directories: a path with another file name (`Reaches.beside`),
and whatever splits into the path of a directory and a name (`reaches_of_splits`). Without links a
path reads the same until something is put under the name that it reaches (`Reaches.read?_eq`). -/
namespace Precompiler

namespace FileTree

variable {tree : FileTree} {followLast : Bool} {n m k : Nat} {spot middle directory : Location}
  {segments others rest : List String} {name : String}

/-- What a name in a directory stands for. -/
def targetAt (tree : FileTree) (directory : Location) (name : String) : Target :=
  match tree.get? (directory ++ [name]) with
  | some entry => .present (directory ++ [name]) entry
  | none => .absent directory name

@[simp] theorem targetAt_spot : (tree.targetAt directory name).spot = directory ++ [name] := by
  unfold targetAt
  split <;> rfl

theorem follow_name (hstep : IsStep name) :
    tree.follow false n directory [name] = .ok (tree.targetAt directory name) := by
  rw [follow_step hstep, targetAt]
  rcases tree.get? (directory ++ [name]) with _ | (_ | _ | _) <;> simp

theorem Enters.trans (h : tree.Enters n spot segments m middle)
    (h' : tree.Enters m middle others k directory) :
    tree.Enters n spot (segments ++ others) k directory := fun followLast rest hrest => by
  rw [List.append_assoc, h followLast _ (by simp [hrest]), h' followLast rest hrest]

/-- Only what segments say counts for where they lead. -/
theorem follow_speaking (hrest : rest ≠ []) :
    tree.follow followLast n spot (segments ++ (others ++ rest)) =
      tree.follow followLast n spot (segments ++ (Path.speaking others ++ rest)) := by
  induction others generalizing segments with
  | nil => rfl
  | cons first others ih =>
    cases hidle : Path.isIdle first
    · have hspeaking : Path.speaking (first :: others) = first :: Path.speaking others := by
        simp [Path.speaking, hidle]
      rw [hspeaking, List.cons_append, List.cons_append, List.append_cons,
        List.append_cons segments first (_ ++ rest)]
      exact ih
    · have hspeaking : Path.speaking (first :: others) = Path.speaking others := by
        simp [Path.speaking, hidle]
      rw [hspeaking, List.cons_append, follow_skip hidle (by simp [hrest])]
      exact ih

theorem Enters.congr (hspeaking : Path.speaking others = Path.speaking segments)
    (h : tree.Enters n spot segments m directory) : tree.Enters n spot others m directory :=
  fun followLast rest hrest => by
    have hfollow := h followLast rest hrest
    rw [← List.nil_append (segments ++ rest), follow_speaking hrest] at hfollow
    rw [← List.nil_append (others ++ rest), follow_speaking hrest, hspeaking, hfollow]

/-- Names of directories, each in the one before it, lead into the last of them. -/
theorem enters_names {names : List String} (hnames : ∀ name ∈ names, IsName name)
    (hdirectories : ∀ front back, names = front ++ back → tree.HasDirectory (spot ++ front)) :
    tree.Enters n spot names n (spot ++ names) := by
  induction names generalizing spot with
  | nil =>
    rw [List.append_nil]
    exact .nil
  | cons first names ih =>
    obtain ⟨s, hfirst⟩ := hdirectories [first] names rfl
    have hrest : tree.Enters n (spot ++ [first]) names n (spot ++ [first] ++ names) := ih
      (fun name hname => hnames name (List.mem_cons_of_mem first hname))
      (fun front back heq => by simpa using hdirectories (first :: front) back (by simp [heq]))
    rw [List.append_assoc, List.singleton_append] at hrest
    exact .step (hnames first List.mem_cons_self).step hfirst hrest

/-- What is no directory is named by the last segment of a path that leads to it. -/
theorem Leads.last_step (hsound : tree.Sound) {front : List String} {all : List String}
    {entry : Entry} {goal : Location}
    (h : tree.Leads followLast n spot all (.present goal entry)) (hall : all = front ++ [name])
    (hspot : tree.HasDirectory spot) (hentry : entry.isDirectory = false) : IsStep name := by
  generalize htarget : Target.present goal entry = target at h
  have hnot : ∀ spot, tree.get? spot = some entry → ¬tree.HasDirectory spot := by
    rintro spot hget ⟨s, hdirectory⟩
    rw [hget, Option.some.injEq] at hdirectory
    simp [hdirectory, Entry.isDirectory] at hentry
  induction h generalizing front with
  | here _ => simp at hall
  | idle _ h ih =>
    rcases front with _ | ⟨_, front⟩
    · cases hall
      cases h with
      | here hget =>
        obtain ⟨rfl, rfl⟩ := Target.present.inj htarget
        exact absurd hspot (hnot _ hget)
    · obtain ⟨rfl, rfl⟩ := List.cons.inj hall
      exact ih rfl hspot htarget
  | up h ih =>
    rcases front with _ | ⟨_, front⟩
    · cases hall
      cases h with
      | here hget =>
        obtain ⟨rfl, rfl⟩ := Target.present.inj htarget
        exact absurd (hsound.dropLast hspot) (hnot _ hget)
    · obtain ⟨rfl, rfl⟩ := List.cons.inj hall
      exact ih rfl (hsound.dropLast hspot) htarget
  | absent _ _ => cases htarget
  | present hstep _ _ =>
    rcases front with _ | ⟨_, front⟩
    · cases hall
      exact hstep
    · simp at hall
  | enter _ hget hrest _ ih =>
    rcases front with _ | ⟨_, front⟩
    · cases hall
      exact absurd rfl hrest
    · obtain ⟨rfl, rfl⟩ := List.cons.inj hall
      exact ih rfl ⟨_, hget⟩ htarget
  | link hstep _ _ _ ih =>
    rcases front with _ | ⟨_, front⟩
    · cases hall
      exact hstep
    · obtain ⟨rfl, rfl⟩ := List.cons.inj hall
      refine ih (List.append_assoc ..).symm ?_ htarget
      split
      · exact hasDirectory_root _
      · exact hspot

/-- A free name that segments lead to has no separator in it, no more than they have. -/
theorem Leads.absent_bare {all : List String}
    (h : tree.Leads followLast n spot all (.absent directory name))
    (hall : ∀ s ∈ all, '/' ∉ s.toList) : '/' ∉ name.toList := by
  generalize htarget : Target.absent directory name = target at h
  induction h with
  | here _ | present _ _ _ => cases htarget
  | absent _ _ =>
    obtain ⟨rfl, rfl⟩ := Target.absent.inj htarget
    exact hall _ List.mem_cons_self
  | idle _ _ ih | up _ ih | enter _ _ _ _ ih =>
    exact ih (fun s hs => hall s (List.mem_cons_of_mem _ hs)) htarget
  | link _ _ _ _ ih =>
    refine ih (fun s hs => ?_) htarget
    rcases List.mem_append.mp hs with hpath | hrest
    · exact Path.not_mem_of_mem_segments hpath
    · exact hall s (List.mem_cons_of_mem _ hrest)

end FileTree

namespace Files

variable {files : Files} {path other source : Path} {directory spot : Location}
  {name new : String} {entry : Entry}

/-- A path reaches a name in a directory, whatever the name stands for. -/
def Reaches (files : Files) (path : Path) (directory : Location) (name : String) : Prop :=
  ∃ front begin m, path.segments = front ++ [name] ∧ IsStep name ∧ files.start path = some begin ∧
    files.tree.Enters maxLinks begin front m directory

theorem Reaches.fileName? (h : files.Reaches path directory name) :
    path.fileName? = some name := by
  obtain ⟨front, _, _, hsegments, hstep, _⟩ := h
  exact Path.fileName?_of_segments hsegments hstep.speaks hstep.notUp

/-- The name that a path reaches is looked up in the directory. -/
theorem Reaches.resolve (h : files.Reaches path directory name) (husable : path.isUsable = true) :
    files.resolve path false = .ok (files.tree.targetAt directory name) := by
  obtain ⟨front, begin, m, hsegments, hstep, hbegin, henters⟩ := h
  have hne : path ≠ "" := by
    rintro rfl
    rw [Path.segments_empty] at hsegments
    cases front with
    | nil =>
      simp only [List.nil_append, List.cons.injEq, and_true] at hsegments
      simpa [← hsegments, Path.isIdle] using hstep.speaks
    | cons => simp at hsegments
  refine resolve_eq_ok_iff.mpr ⟨hne, husable, begin, hbegin, FileTree.follow_eq_ok_iff.mp ?_⟩
  rw [hsegments, henters false [name] (by simp), FileTree.follow_name hstep]

/-- A path that leads somewhere without following its last link, and ends in a name, reaches that
name in a directory. -/
theorem reaches_of_resolve {followLast : Bool} {target : Target} {front : List String}
    (h : files.resolve path followLast = .ok target) (hsegments : path.segments = front ++ [name])
    (hidle : Path.isIdle name = false) (hup : name ≠ "..") :
    ∃ directory, files.Reaches path directory name := by
  obtain ⟨_, _, begin, hbegin, hleads⟩ := resolve_eq_ok_iff.mp h
  obtain ⟨m, directory, henters, hlast⟩ := hleads.enters hsegments (by simp)
  have hstep : IsStep name := by
    cases hlast with
    | idle hname _ => simp [hname] at hidle
    | up _ => exact absurd rfl hup
    | absent hstep _ => exact hstep
    | present hstep _ _ => exact hstep
    | enter hstep _ _ _ => exact hstep
    | link hstep _ _ _ => exact hstep
  exact ⟨directory, front, begin, m, hsegments, hstep, hbegin, henters⟩

/-- In sound files whatever is no directory is reached by its name. -/
theorem Sound.reaches (hsound : files.Sound) (hfind : files.find? path = some (spot, entry))
    (hentry : entry.isDirectory = false) : ∃ directory name, files.Reaches path directory name := by
  obtain ⟨_, _, begin, hbegin, hleads⟩ := resolve_eq_ok_iff.mp (find?_eq_some_iff.mp hfind)
  obtain ⟨front, name, hsegments⟩ : ∃ front name, path.segments = front ++ [name] :=
    ⟨_, _, (List.dropLast_concat_getLast (Path.segments_ne_nil path)).symm⟩
  have hstep := hleads.last_step hsound.tree hsegments (hsound.start hbegin) hentry
  obtain ⟨directory, hreaches⟩ :=
    reaches_of_resolve (find?_eq_some_iff.mp hfind) hsegments hstep.speaks hstep.notUp
  exact ⟨directory, name, hreaches⟩

/-- Without links the names alone say where a name is that a path reaches. -/
theorem Reaches.spotOf (h : files.Reaches path directory name) (hlinkless : files.tree.Linkless) :
    files.spotOf path = some (directory ++ [name]) := by
  obtain ⟨front, begin, m, hsegments, hstep, hbegin, henters⟩ := h
  have hleads := FileTree.leads_of_follow
    ((henters false [name] (by simp)).trans (FileTree.follow_name hstep))
  rw [Files.spotOf, hbegin, Option.map_some, hsegments, ← hleads.spot_eq hlinkless,
    FileTree.targetAt_spot]

/-- Without links a path finds just what stands under the name that it reaches. -/
theorem Reaches.find?_eq_some_iff (h : files.Reaches path directory name)
    (hlinkless : files.tree.Linkless) :
    files.find? path = some (spot, entry) ↔
      path.isUsable = true ∧ spot = directory ++ [name] ∧ files.tree.get? spot = some entry := by
  constructor
  · intro hfind
    have hresolve := Files.find?_eq_some_iff.mp hfind
    obtain ⟨_, husable, _⟩ := resolve_eq_ok_iff.mp hresolve
    have hspot := spotOf_of_resolve hlinkless hresolve
    rw [h.spotOf hlinkless] at hspot
    exact ⟨husable, (Option.some.inj hspot).symm, get?_of_find? hfind⟩
  · rintro ⟨husable, rfl, hget⟩
    obtain ⟨hne, _, begin, hbegin, hleads⟩ := resolve_eq_ok_iff.mp (h.resolve husable)
    obtain ⟨front, begin, m, hsegments, hstep, hbegin, henters⟩ := h
    refine Files.find?_eq_some_iff.mpr (resolve_eq_ok_iff.mpr ⟨hne, husable, begin, hbegin, ?_⟩)
    refine FileTree.follow_eq_ok_iff.mp ?_
    rw [hsegments, henters true [name] (by simp), FileTree.follow_step hstep, hget]
    cases entry with
    | file content x => rfl
    | link path => exact absurd hget (hlinkless _ _)
    | directory s => rfl

/-- Without links a path reads after changes what it has read before them, if nothing has been put
where it leads. -/
theorem Reaches.read?_eq {after : Files} {puts : List (Location × ByteArray)}
    (h : files.Reaches path directory name) (hlinkless : files.tree.Linkless)
    (hchanges : Changes puts files after) (hput : lastPut (directory ++ [name]) puts = none) :
    after.read? path = files.read? path := by
  refine Option.ext fun content => ?_
  rw [read?_eq_some_iff, read?_eq_some_iff]
  constructor
  · rintro ⟨spot, x, hfind⟩
    have hresolve := Files.find?_eq_some_iff.mp hfind
    obtain ⟨_, husable, _⟩ := resolve_eq_ok_iff.mp hresolve
    have hspot : files.spotOf path = some spot :=
      (spotOf_congr hchanges.here path).symm.trans
        (spotOf_of_resolve (hchanges.linkless hlinkless) hresolve)
    rw [h.spotOf hlinkless, Option.some.injEq] at hspot
    subst hspot
    have hafter := get?_of_find? hfind
    rcases hchanges.kept _ hput with heq | ⟨_, hnew⟩
    · exact ⟨_, x, (h.find?_eq_some_iff hlinkless).mpr ⟨husable, rfl, heq.symm.trans hafter⟩⟩
    · simp [hafter] at hnew
  · rintro ⟨spot, x, hfind⟩
    obtain ⟨_, rfl, _⟩ := (h.find?_eq_some_iff hlinkless).mp hfind
    exact ⟨_, x, hchanges.find?_kept hlinkless hfind hput⟩

/-- A path that says the same before its last segment reaches names in the same directory. -/
theorem Reaches.congr (h : files.Reaches path directory name) {front back : List String}
    (hpath : path.segments = back ++ [name]) (hother : other.segments = front ++ [new])
    (hspeaking : Path.speaking front = Path.speaking back)
    (habsolute : other.isAbsolute = path.isAbsolute) (hnew : IsStep new) :
    files.Reaches other directory new := by
  obtain ⟨front', begin, m, hsegments, _, hbegin, henters⟩ := h
  obtain rfl : back = front' := List.append_cancel_right (hpath.symm.trans hsegments)
  refine ⟨front, begin, m, hother, hnew, ?_, henters.congr hspeaking⟩
  rw [start, habsolute]
  exact hbegin

/-- Another file name is a name in the same directory. -/
theorem Reaches.beside (h : files.Reaches path directory name) (hnew : IsStep new)
    (hbare : '/' ∉ new.toList) : files.Reaches (Path.withFileName path new) directory new := by
  obtain ⟨front, _, _, hsegments, hstep, _, _⟩ := id h
  exact h.congr hsegments (Path.segments_withFileName hsegments hstep.speaks hstep.notUp hbare)
    (Path.speaking_dropIdleEnd front)
    (Path.isAbsolute_withFileName hsegments hstep.speaks hstep.notUp hbare) hnew

/-- What splits into the path of a directory and a name is reached as that name in the directory. -/
theorem reaches_of_splits {s : Bool} (hsplits : path.Splits source name) (hstep : IsStep name)
    (hfind : files.find? source = some (directory, .directory s)) :
    files.Reaches path directory name := by
  obtain ⟨front, hsegments, hspeaking⟩ := hsplits.segments
  obtain ⟨_, _, begin, hbegin, hleads⟩ := resolve_eq_ok_iff.mp (find?_eq_some_iff.mp hfind)
  obtain ⟨m, henters⟩ := hleads.enters_directory
  refine ⟨front, begin, m, hsegments, hstep, ?_, henters.congr hspeaking.symm⟩
  rw [start, ← hsplits.isAbsolute]
  exact hbegin

end Files

end Precompiler
