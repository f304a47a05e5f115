import Precompiler.Files.Resolve

/-! Where paths lead, as a relation.

`Leads` says step by step how segments lead from a directory to a target, links included;
`follow_eq_ok_iff` says that following a path computes just that. Proofs about paths go by
induction on this relation and open the computation only through the equations of
`follow`.

Two things that a path can be asked for do not need a tree at all. Without links a target
stands where the names alone put it (`descend`, `spotOf`), so paths can be compared before
anything on them exists. And what comes after a directory does not hang on how the
directory was reached (`Enters`). -/
namespace Precompiler

/-- The location that a target is about. -/
def Target.spot : Target → Location
  | .present spot _ => spot
  | .absent directory name => directory ++ [name]

/-- A segment that leads into an entry: it says something, it does not lead up, and the system
admits it. -/
structure IsStep (segment : String) : Prop where
  speaks : Path.isIdle segment = false
  notUp : segment ≠ ".."
  short : segment.utf8ByteSize ≤ maxNameBytes

theorem segment_cases (segment : String) :
    Path.isIdle segment = true ∨ segment = ".." ∨
      (Path.isIdle segment = false ∧ segment ≠ ".." ∧ maxNameBytes < segment.utf8ByteSize) ∨
      IsStep segment := by
  cases hidle : Path.isIdle segment
  · by_cases hup : segment = ".."
    · exact .inr (.inl hup)
    · by_cases hlong : maxNameBytes < segment.utf8ByteSize
      · exact .inr (.inr (.inl ⟨rfl, hup, hlong⟩))
      · exact .inr (.inr (.inr ⟨hidle, hup, Nat.le_of_not_lt hlong⟩))
  · exact .inl rfl

namespace FileTree

variable {tree : FileTree} {followLast : Bool}

/-! ### One step at a time -/

/-- Where a link leads, with so many links left. -/
def viaLink (tree : FileTree) (followLast : Bool) (n : Nat) (spot : Location) (target : Path)
    (rest : List String) : Except PathFault Target :=
  match n with
  | 0 => .error .loop
  | n + 1 =>
    tree.follow followLast n (if Path.isAbsolute target then [] else spot)
      (Path.segments target ++ rest)

theorem follow_eq_trail (n : Nat) :
    tree.follow followLast n = tree.trail followLast (tree.viaLink followLast n) := by
  cases n <;> rfl

theorem follow_nil (n : Nat) (spot : Location) :
    tree.follow followLast n spot [] =
      match tree.get? spot with
      | some entry => .ok (.present spot entry)
      | none => .error .missing := by
  rw [follow_eq_trail]
  unfold trail
  cases tree.get? spot <;> rfl

theorem follow_idle {segment : String} (h : Path.isIdle segment = true) (n : Nat) (spot : Location)
    (rest : List String) :
    tree.follow followLast n spot (segment :: rest) = tree.follow followLast n spot rest := by
  have h' : (segment == "" || segment == ".") = true := h
  rw [follow_eq_trail, trail, if_pos h']

theorem follow_up (n : Nat) (spot : Location) (rest : List String) :
    tree.follow followLast n spot (".." :: rest) = tree.follow followLast n spot.dropLast rest := by
  rw [follow_eq_trail, trail]
  rfl

theorem follow_long {segment : String} (hidle : Path.isIdle segment = false) (hup : segment ≠ "..")
    (hlong : maxNameBytes < segment.utf8ByteSize) (n : Nat) (spot : Location) (rest : List String) :
    tree.follow followLast n spot (segment :: rest) = .error .unusable := by
  have h' : ¬(segment == "" || segment == ".") = true := by
    rw [show (segment == "" || segment == ".") = false from hidle]
    exact Bool.false_ne_true
  rw [follow_eq_trail, trail, if_neg h', if_neg (by simpa using hup), if_pos hlong]

theorem follow_step {segment : String} (h : IsStep segment) (n : Nat) (spot : Location)
    (rest : List String) :
    tree.follow followLast n spot (segment :: rest) =
      match tree.get? (spot ++ [segment]) with
      | none => if rest = [] then .ok (.absent spot segment) else .error .missing
      | some (.directory s) =>
        if rest = [] then .ok (.present (spot ++ [segment]) (.directory s))
        else tree.follow followLast n (spot ++ [segment]) rest
      | some (.link target) =>
        if rest = [] ∧ followLast = false then .ok (.present (spot ++ [segment]) (.link target))
        else tree.viaLink followLast n spot target rest
      | some (.file content x) =>
        if rest = [] then .ok (.present (spot ++ [segment]) (.file content x))
        else .error .notDirectory := by
  have hidle : ¬(segment == "" || segment == ".") = true := by
    rw [show (segment == "" || segment == ".") = false from h.speaks]
    exact Bool.false_ne_true
  rw [follow_eq_trail, trail, if_neg hidle, if_neg (by simpa using h.notUp),
    if_neg (Nat.not_lt.mpr h.short)]
  rcases tree.get? (spot ++ [segment]) with _ | (_ | _ | _) <;> simp

/-! ### The relation -/

/-- How segments lead from a directory to a target through at most so many links. -/
inductive Leads (tree : FileTree) (followLast : Bool) :
    Nat → Location → List String → Target → Prop where
  | here {n : Nat} {spot : Location} {entry : Entry} : tree.get? spot = some entry →
      Leads tree followLast n spot [] (.present spot entry)
  | idle {n : Nat} {spot : Location} {segment : String} {rest : List String} {target : Target} :
      Path.isIdle segment = true → Leads tree followLast n spot rest target →
      Leads tree followLast n spot (segment :: rest) target
  | up {n : Nat} {spot : Location} {rest : List String} {target : Target} :
      Leads tree followLast n spot.dropLast rest target →
      Leads tree followLast n spot (".." :: rest) target
  | absent {n : Nat} {spot : Location} {segment : String} : IsStep segment →
      tree.get? (spot ++ [segment]) = none →
      Leads tree followLast n spot [segment] (.absent spot segment)
  /-- A link at the end is a target itself only where it is not to be followed. -/
  | present {n : Nat} {spot : Location} {segment : String} {entry : Entry} : IsStep segment →
      tree.get? (spot ++ [segment]) = some entry →
      (∀ path, entry = .link path → followLast = false) →
      Leads tree followLast n spot [segment] (.present (spot ++ [segment]) entry)
  | enter {n : Nat} {spot : Location} {segment : String} {rest : List String} {target : Target}
      {s : Bool} : IsStep segment → tree.get? (spot ++ [segment]) = some (.directory s) → rest ≠ [] →
      Leads tree followLast n (spot ++ [segment]) rest target →
      Leads tree followLast n spot (segment :: rest) target
  | link {n : Nat} {spot : Location} {segment : String} {rest : List String} {target : Target}
      {path : Path} : IsStep segment → tree.get? (spot ++ [segment]) = some (.link path) →
      (rest = [] → followLast = true) →
      Leads tree followLast n (if Path.isAbsolute path then [] else spot) (Path.segments path ++ rest)
        target →
      Leads tree followLast (n + 1) spot (segment :: rest) target

theorem Leads.follow_eq {n : Nat} {spot : Location} {segments : List String} {target : Target}
    (h : tree.Leads followLast n spot segments target) :
    tree.follow followLast n spot segments = .ok target := by
  induction h with
  | here hget => rw [follow_nil, hget]
  | idle hidle _ ih => rw [follow_idle hidle, ih]
  | up _ ih => rw [follow_up, ih]
  | absent hstep hget => rw [follow_step hstep, hget, if_pos rfl]
  | @present n spot segment entry hstep hget hlink =>
    rw [follow_step hstep, hget]
    cases entry with
    | file content x => exact if_pos rfl
    | link path => exact if_pos ⟨rfl, hlink path rfl⟩
    | directory s => exact if_pos rfl
  | enter hstep hget hrest _ ih => rw [follow_step hstep, hget, ← ih]; exact if_neg hrest
  | link hstep hget hrest _ ih =>
    rw [follow_step hstep, hget]
    refine (if_neg ?_).trans ih
    rintro ⟨hnil, hfalse⟩
    rw [hrest hnil] at hfalse
    exact Bool.noConfusion hfalse

theorem leads_of_follow {n : Nat} {spot : Location} {segments : List String} {target : Target}
    (h : tree.follow followLast n spot segments = .ok target) :
    tree.Leads followLast n spot segments target := by
  -- The inner induction is on the segments, the outer one on the links that are left.
  induction n using Nat.strongRecOn generalizing spot segments with
  | _ n ihn =>
    induction segments generalizing spot with
    | nil =>
      rw [follow_nil] at h
      rcases hget : tree.get? spot with _ | entry
      · simp [hget] at h
      · simp only [hget, Except.ok.injEq] at h
        exact h ▸ .here hget
    | cons segment rest ih =>
      rcases segment_cases segment with hidle | rfl | ⟨hidle, hup, hlong⟩ | hstep
      · rw [follow_idle hidle] at h
        exact .idle hidle (ih h)
      · rw [follow_up] at h
        exact .up (ih h)
      · rw [follow_long hidle hup hlong] at h
        cases h
      · rw [follow_step hstep] at h
        rcases hget : tree.get? (spot ++ [segment]) with _ | (⟨content, x⟩ | path | s) <;>
          simp only [hget] at h
        · split at h
          next hnil =>
            subst hnil
            cases h
            exact .absent hstep hget
          next => cases h
        · split at h
          next hnil =>
            subst hnil
            cases h
            exact .present hstep hget (by simp)
          next => cases h
        · split at h
          next hlast =>
            obtain ⟨rfl, hfollow⟩ := hlast
            cases h
            exact .present hstep hget fun _ _ => hfollow
          next hlast =>
            cases n with
            | zero => cases h
            | succ n =>
              exact .link hstep hget (fun hnil => by simpa [hnil] using hlast)
                (ihn n (Nat.lt_succ_self n) h)
        · split at h
          next hnil =>
            subst hnil
            cases h
            exact .present hstep hget (by simp)
          next hrest => exact .enter hstep hget hrest (ih h)

/-- Following a path computes where it leads. -/
theorem follow_eq_ok_iff {n : Nat} {spot : Location} {segments : List String} {target : Target} :
    tree.follow followLast n spot segments = .ok target ↔
      tree.Leads followLast n spot segments target :=
  ⟨leads_of_follow, Leads.follow_eq⟩

/-- Whether a target says truly what stands at its location. -/
def Agrees (tree : FileTree) : Target → Prop
  | .present spot entry => tree.get? spot = some entry
  | .absent directory name => tree.get? (directory ++ [name]) = none ∧ IsStep name

theorem Leads.agrees {n : Nat} {spot : Location} {segments : List String} {target : Target}
    (h : tree.Leads followLast n spot segments target) : tree.Agrees target := by
  induction h with
  | here hget => exact hget
  | absent hstep hget => exact ⟨hget, hstep⟩
  | present _ hget _ => exact hget
  | idle _ _ ih | up _ ih | enter _ _ _ _ ih | link _ _ _ _ ih => exact ih

/-! ### Past a directory -/

/-- Segments that lead from one directory into another, whatever comes after them. The first
number is how many links there are to begin with, the second how many are left. -/
def Enters (tree : FileTree) (n : Nat) (spot : Location) (segments : List String) (m : Nat)
    (directory : Location) : Prop :=
  ∀ followLast rest, rest ≠ [] →
    tree.follow followLast n spot (segments ++ rest) = tree.follow followLast m directory rest

variable {n m : Nat} {spot directory : Location} {segment : String} {segments rest : List String}

theorem Enters.nil : tree.Enters n spot [] n spot := fun _ _ _ => rfl

theorem Enters.idle (hidle : Path.isIdle segment = true)
    (h : tree.Enters n spot segments m directory) :
    tree.Enters n spot (segment :: segments) m directory := fun followLast rest hrest => by
  rw [List.cons_append, follow_idle hidle, h followLast rest hrest]

theorem Enters.up (h : tree.Enters n spot.dropLast segments m directory) :
    tree.Enters n spot (".." :: segments) m directory := fun followLast rest hrest => by
  rw [List.cons_append, follow_up, h followLast rest hrest]

theorem Enters.step {s : Bool} (hstep : IsStep segment)
    (hget : tree.get? (spot ++ [segment]) = some (.directory s))
    (h : tree.Enters n (spot ++ [segment]) segments m directory) :
    tree.Enters n spot (segment :: segments) m directory := fun followLast rest hrest => by
  rw [List.cons_append, follow_step hstep, hget, ← h followLast rest hrest]
  exact if_neg (by simp [hrest])

theorem Enters.link {path : Path} (hstep : IsStep segment)
    (hget : tree.get? (spot ++ [segment]) = some (.link path))
    (h : tree.Enters n (if Path.isAbsolute path then [] else spot) (Path.segments path ++ segments) m
      directory) :
    tree.Enters (n + 1) spot (segment :: segments) m directory := fun followLast rest hrest => by
  rw [List.cons_append, follow_step hstep, hget, ← h followLast rest hrest, List.append_assoc]
  exact if_neg (by simp [hrest])

/-- Whatever a path leads to, the segments before its last ones lead into a directory. -/
theorem Leads.enters {all : List String} {target : Target}
    (h : tree.Leads followLast n spot all target) (hall : all = segments ++ rest) (hrest : rest ≠ []) :
    ∃ m directory, tree.Enters n spot segments m directory ∧
      tree.Leads followLast m directory rest target := by
  induction h generalizing segments with
  | here hget =>
    have hnil : segments = [] ∧ rest = [] := by simpa [eq_comm] using hall
    exact absurd hnil.2 hrest
  | @idle n spot segment _ target hidle h ih =>
    rcases segments with _ | ⟨_, segments⟩
    · cases hall
      exact ⟨n, spot, .nil, .idle hidle h⟩
    · obtain ⟨rfl, rfl⟩ := List.cons.inj hall
      obtain ⟨m, directory, henters, hleads⟩ := ih rfl
      exact ⟨m, directory, henters.idle hidle, hleads⟩
  | @up n spot _ target h ih =>
    rcases segments with _ | ⟨_, segments⟩
    · cases hall
      exact ⟨n, spot, .nil, .up h⟩
    · obtain ⟨rfl, rfl⟩ := List.cons.inj hall
      obtain ⟨m, directory, henters, hleads⟩ := ih rfl
      exact ⟨m, directory, henters.up, hleads⟩
  | @absent n spot segment hstep hget =>
    rcases segments with _ | ⟨_, segments⟩
    · cases hall
      exact ⟨n, spot, .nil, .absent hstep hget⟩
    · simp_all
  | @present n spot segment entry hstep hget hlink =>
    rcases segments with _ | ⟨_, segments⟩
    · cases hall
      exact ⟨n, spot, .nil, .present hstep hget hlink⟩
    · simp_all
  | @enter n spot segment _ target s hstep hget hne h ih =>
    rcases segments with _ | ⟨_, segments⟩
    · cases hall
      exact ⟨n, spot, .nil, .enter hstep hget hne h⟩
    · obtain ⟨rfl, rfl⟩ := List.cons.inj hall
      obtain ⟨m, directory, henters, hleads⟩ := ih rfl
      exact ⟨m, directory, henters.step hstep hget, hleads⟩
  | @link n spot segment _ target path hstep hget hlast h ih =>
    rcases segments with _ | ⟨_, segments⟩
    · cases hall
      exact ⟨n + 1, spot, .nil, .link hstep hget hlast h⟩
    · obtain ⟨rfl, rfl⟩ := List.cons.inj hall
      obtain ⟨m, directory, henters, hleads⟩ := ih (List.append_assoc ..).symm
      exact ⟨m, directory, henters.link hstep hget, hleads⟩

/-- A path to a directory leads into it. -/
theorem Leads.enters_directory {s : Bool}
    (h : tree.Leads true n spot segments (.present directory (.directory s))) :
    ∃ m, tree.Enters n spot segments m directory := by
  generalize htarget : Target.present directory (.directory s) = target at h
  induction h with
  | @here n spot entry hget =>
    obtain ⟨rfl, rfl⟩ := Target.present.inj htarget
    exact ⟨n, .nil⟩
  | idle hidle _ ih =>
    obtain ⟨m, h⟩ := ih htarget
    exact ⟨m, h.idle hidle⟩
  | up _ ih =>
    obtain ⟨m, h⟩ := ih htarget
    exact ⟨m, h.up⟩
  | absent _ _ => cases htarget
  | @present n spot segment entry hstep hget _ =>
    obtain ⟨rfl, rfl⟩ := Target.present.inj htarget
    exact ⟨n, Enters.nil.step hstep hget⟩
  | enter hstep hget _ _ ih =>
    obtain ⟨m, h⟩ := ih htarget
    exact ⟨m, h.step hstep hget⟩
  | link hstep hget _ _ ih =>
    obtain ⟨m, h⟩ := ih htarget
    exact ⟨m, h.link hstep hget⟩

/-- An idle segment that something follows can be left out. -/
theorem follow_skip (hidle : Path.isIdle segment = true) (hrest : rest ≠ []) :
    tree.follow followLast n spot (segments ++ segment :: rest) =
      tree.follow followLast n spot (segments ++ rest) := by
  induction n using Nat.strongRecOn generalizing spot segments with
  | _ n ihn =>
    induction segments generalizing spot with
    | nil => exact follow_idle hidle n spot rest
    | cons first segments ih =>
      simp only [List.cons_append]
      rcases segment_cases first with hfirst | rfl | ⟨hfirst, hup, hlong⟩ | hstep
      · rw [follow_idle hfirst, follow_idle hfirst, ih]
      · rw [follow_up, follow_up, ih]
      · rw [follow_long hfirst hup hlong, follow_long hfirst hup hlong]
      · rw [follow_step hstep, follow_step hstep]
        rcases tree.get? (spot ++ [first]) with _ | (_ | path | _)
        · simp [hrest]
        · simp [hrest]
        · cases n with
          | zero => simp [hrest, viaLink]
          | succ n =>
            simp only [List.append_eq_nil_iff, reduceCtorEq, and_false, false_and, if_false, hrest,
              viaLink, ← List.append_assoc]
            exact ihn n (Nat.lt_succ_self n)
        · simp [hrest, ih]

/-- An idle segment at the end asks for a directory and says nothing else. -/
theorem Leads.drop_idle {all : List String} {target : Target}
    (h : tree.Leads true n spot all target) (hall : all = segments ++ [segment])
    (hidle : Path.isIdle segment = true) : tree.Leads true n spot segments target := by
  induction h generalizing segments with
  | here _ => simp at hall
  | idle hfirst h ih =>
    rcases segments with _ | ⟨_, segments⟩
    · cases hall
      exact h
    · obtain ⟨rfl, rfl⟩ := List.cons.inj hall
      exact .idle hfirst (ih rfl)
  | up h ih =>
    rcases segments with _ | ⟨_, segments⟩
    · cases hall
      simp [Path.isIdle] at hidle
    · obtain ⟨rfl, rfl⟩ := List.cons.inj hall
      exact .up (ih rfl)
  | absent hstep _ | present hstep _ _ =>
    rcases segments with _ | ⟨_, segments⟩
    · cases hall
      simp [hstep.speaks] at hidle
    · simp at hall
  | enter hstep hget hrest h ih =>
    rcases segments with _ | ⟨_, segments⟩
    · simp_all
    · obtain ⟨rfl, rfl⟩ := List.cons.inj hall
      have hshort := ih rfl
      by_cases hnil : segments = []
      · subst hnil
        cases hshort with
        | here hthere =>
          cases hget.symm.trans hthere
          exact .present hstep hget (by simp)
      · exact .enter hstep hget hnil hshort
  | link hstep hget _ h ih =>
    rcases segments with _ | ⟨_, segments⟩
    · cases hall
      simp [hstep.speaks] at hidle
    · obtain ⟨rfl, rfl⟩ := List.cons.inj hall
      exact .link hstep hget (fun _ => rfl) (ih (List.append_assoc ..).symm)

theorem Leads.drop_idles {idle : List String} {target : Target}
    (h : tree.Leads true n spot (segments ++ idle) target)
    (hidle : ∀ s ∈ idle, Path.isIdle s = true) : tree.Leads true n spot segments target := by
  induction idle generalizing segments with
  | nil => rwa [List.append_nil] at h
  | cons first idle ih =>
    rw [List.append_cons] at h
    exact (ih h fun s hs => hidle s (List.mem_cons_of_mem first hs)).drop_idle rfl
      (hidle first List.mem_cons_self)

/-- What is there for a path that follows its last link is there for one that does not. -/
theorem Leads.unfollowed {target : Target} (h : tree.Leads true n spot segments target) :
    ∃ target', tree.Leads false n spot segments target' ∧
      (∀ goal entry, target = .present goal entry → ∃ goal' entry', target' = .present goal' entry') := by
  induction h with
  | here hget => exact ⟨_, .here hget, fun _ _ _ => ⟨_, _, rfl⟩⟩
  | idle hidle _ ih =>
    obtain ⟨target', h, hpresent⟩ := ih
    exact ⟨target', .idle hidle h, hpresent⟩
  | up _ ih =>
    obtain ⟨target', h, hpresent⟩ := ih
    exact ⟨target', .up h, hpresent⟩
  | absent hstep hget => exact ⟨_, .absent hstep hget, fun _ _ heq => by cases heq⟩
  | present hstep hget _ => exact ⟨_, .present hstep hget fun _ _ => rfl, fun _ _ _ => ⟨_, _, rfl⟩⟩
  | enter hstep hget hrest _ ih =>
    obtain ⟨target', h, hpresent⟩ := ih
    exact ⟨target', .enter hstep hget hrest h, hpresent⟩
  | @link n spot segment rest target path hstep hget _ _ ih =>
    obtain ⟨target', h, hpresent⟩ := ih
    by_cases hrest : rest = []
    · subst hrest
      exact ⟨_, .present hstep hget fun _ _ => rfl, fun _ _ _ => ⟨_, _, rfl⟩⟩
    · exact ⟨target', .link hstep hget (fun hnil => absurd hnil hrest) h, hpresent⟩

/-! ### Without links -/

/-- A tree without links. -/
def Linkless (tree : FileTree) : Prop := ∀ spot path, tree.get? spot ≠ some (.link path)

/-- Where segments lead by their names alone. -/
def descend (spot : Location) : List String → Location
  | [] => spot
  | segment :: rest =>
    if Path.isIdle segment then descend spot rest
    else if segment = ".." then descend spot.dropLast rest
    else descend (spot ++ [segment]) rest

theorem descend_step (hstep : IsStep segment) :
    descend spot (segment :: rest) = descend (spot ++ [segment]) rest := by
  simp [descend, hstep.speaks, hstep.notUp]

theorem descend_append (spot : Location) (segments rest : List String) :
    descend spot (segments ++ rest) = descend (descend spot segments) rest := by
  induction segments generalizing spot with
  | nil => rfl
  | cons segment segments ih =>
    simp only [List.cons_append, descend]
    split
    · exact ih spot
    · split
      · exact ih _
      · exact ih _

/-- Without links every target stands where the names put it. -/
theorem Leads.spot_eq {target : Target} (hlinkless : tree.Linkless)
    (h : tree.Leads followLast n spot segments target) : target.spot = descend spot segments := by
  induction h with
  | here _ => rfl
  | idle hidle _ ih => rw [ih, descend, if_pos hidle]
  | up _ ih =>
    rw [ih]
    rfl
  | absent hstep _ | present hstep _ _ =>
    rw [descend_step hstep]
    rfl
  | enter hstep _ _ _ ih => rw [ih, descend_step hstep]
  | link _ hget _ _ _ => exact absurd hget (hlinkless _ _)

end FileTree

/-! ### Whole paths -/

namespace Files

variable {files : Files} {path : Path} {followLast : Bool} {spot : Location} {entry : Entry}

/-- Where the way of a path begins. -/
def start (files : Files) (path : Path) : Option Location :=
  if path.isAbsolute then some [] else files.here

/-- The location that a path means by its names alone. -/
def spotOf (files : Files) (path : Path) : Option Location :=
  (files.start path).map (FileTree.descend · path.segments)

theorem spotOf_congr {before after : Files} (h : after.here = before.here) (path : Path) :
    after.spotOf path = before.spotOf path := by
  simp only [spotOf, start, h]

theorem resolve_eq_ok_iff {target : Target} :
    files.resolve path followLast = .ok target ↔
      path ≠ "" ∧ path.isUsable = true ∧ ∃ begin, files.start path = some begin ∧
        files.tree.Leads followLast maxLinks begin path.segments target := by
  simp only [← FileTree.follow_eq_ok_iff, resolve, start]
  by_cases hempty : path = ""
  · simp [hempty]
  cases husable : path.isUsable
  · simp [hempty]
  cases habsolute : path.isAbsolute
  · cases files.here <;> simp [hempty]
  · simp [hempty]

theorem find?_eq_some_iff :
    files.find? path = some (spot, entry) ↔
      files.resolve path true = .ok (.present spot entry) := by
  unfold find?
  rcases files.resolve path true with _ | (_ | _) <;> simp

theorem get?_of_find? (h : files.find? path = some (spot, entry)) :
    files.tree.get? spot = some entry := by
  obtain ⟨_, _, _, _, hleads⟩ := resolve_eq_ok_iff.mp (find?_eq_some_iff.mp h)
  exact hleads.agrees

theorem isDirectory_iff :
    files.isDirectory path = true ↔ ∃ spot s, files.find? path = some (spot, .directory s) := by
  unfold isDirectory
  rcases files.find? path with _ | ⟨spot, _ | _ | s⟩ <;> simp [Entry.isDirectory]

theorem read?_eq_some_iff {content : ByteArray} :
    files.read? path = some content ↔
      ∃ spot x, files.find? path = some (spot, .file content x) := by
  unfold read?
  rcases files.find? path with _ | ⟨spot, _ | _ | _⟩ <;> simp

/-- Without links a path means what it names. -/
theorem spotOf_of_resolve {target : Target} (hlinkless : files.tree.Linkless)
    (h : files.resolve path followLast = .ok target) : files.spotOf path = some target.spot := by
  obtain ⟨_, _, begin, hbegin, hleads⟩ := resolve_eq_ok_iff.mp h
  rw [spotOf, hbegin, Option.map_some, hleads.spot_eq hlinkless]

end Files

end Precompiler
