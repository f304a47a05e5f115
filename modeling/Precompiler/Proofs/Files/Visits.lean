import Precompiler.Proofs.Files.Resolve

/-! What a path comes by.

A path *visits* a location if it ends at what stands there or goes on through it (`FileTree.Visits`). What
it names depends on nothing else: two trees that agree but for one location give the same for every
path that visits it in neither (`Files.SameOff.find?_eq`). A path that is lost at the location does not visit it,
since it names nothing there in either tree. -/
namespace Precompiler

namespace FileTree

variable {tree other : FileTree} {goal spot : Location} {n : Nat} {segment : String} {rest segments : List String}

/-- Segments lead to what stands at a location or through it. -/
inductive Visits (tree : FileTree) (goal : Location) : Nat → Location → List String → Prop where
  | here {n : Nat} {entry : Entry} : tree.get? goal = some entry → Visits tree goal n goal []
  | idle {n : Nat} {spot : Location} {segment : String} {rest : List String} : Path.isIdle segment = true →
      Visits tree goal n spot rest → Visits tree goal n spot (segment :: rest)
  | up {n : Nat} {spot : Location} {rest : List String} : Visits tree goal n spot.dropLast rest →
      Visits tree goal n spot (".." :: rest)
  /-- A file is where a way ends, if it comes to it at all. -/
  | reach {n : Nat} {spot : Location} {segment : String} {rest : List String} {entry : Entry} :
      IsStep segment → spot ++ [segment] = goal → tree.get? goal = some entry →
      (entry.isFile = true → rest = []) → Visits tree goal n spot (segment :: rest)
  | enter {n : Nat} {spot : Location} {segment : String} {rest : List String} {s : Bool} :
      IsStep segment → tree.get? (spot ++ [segment]) = some (.directory s) →
      Visits tree goal n (spot ++ [segment]) rest → Visits tree goal n spot (segment :: rest)
  | link {n : Nat} {spot : Location} {segment : String} {rest : List String} {path : Path} :
      IsStep segment → tree.get? (spot ++ [segment]) = some (.link path) →
      Visits tree goal n (if Path.isAbsolute path then [] else spot) (Path.segments path ++ rest) →
      Visits tree goal (n + 1) spot (segment :: rest)

end FileTree

/-- What a path has come to, if it is there. -/
def PathFault.found? : Except PathFault Target → Option (Location × Entry)
  | .ok (.present spot entry) => some (spot, entry)
  | _ => none

namespace FileTree

variable {tree other : FileTree} {goal spot : Location} {n : Nat} {segment : String} {rest segments : List String}

/-- A way that comes to a location without visiting it finds nothing. -/
theorem found?_of_not_visits (hstep : IsStep segment) (hgoal : spot ++ [segment] = goal)
    (h : ¬tree.Visits goal n spot (segment :: rest)) :
    PathFault.found? (tree.follow true n spot (segment :: rest)) = none := by
  have hlost : ∀ entry, tree.get? goal = some entry → entry.isFile = true ∧ rest ≠ [] := by
    intro entry hget
    refine ⟨?_, fun hrest => h (.reach hstep hgoal hget fun _ => hrest)⟩
    rw [← Bool.not_eq_false]
    exact fun hfile => h (.reach hstep hgoal hget fun hother => Bool.noConfusion (hfile.symm.trans hother))
  rw [follow_step hstep, hgoal]
  rcases hget : tree.get? goal with _ | ⟨content, x⟩ | path | s
  · simp only []
    split <;> rfl
  · exact congrArg PathFault.found? (if_neg (hlost _ hget).2)
  · cases (hlost _ hget).1
  · cases (hlost _ hget).1

/-- Trees that agree but for one location find the same where a way does not visit it. -/
theorem found?_congr (hoff : ∀ spot, spot ≠ goal → other.get? spot = tree.get? spot)
    (h : ¬tree.Visits goal n spot segments) (h' : ¬other.Visits goal n spot segments) :
    PathFault.found? (other.follow true n spot segments) = PathFault.found? (tree.follow true n spot segments) := by
  -- The inner induction is on the segments, the outer one on the links that are left.
  induction n using Nat.strongRecOn generalizing spot segments with
  | _ n ihn =>
    induction segments generalizing spot with
    | nil =>
      rw [follow_nil, follow_nil]
      by_cases hspot : spot = goal
      · subst hspot
        have hnone : ∀ {tree : FileTree}, ¬tree.Visits spot n spot [] → tree.get? spot = none := fun h =>
          Option.eq_none_iff_forall_ne_some.mpr fun entry hget => h (.here hget)
        rw [hnone h, hnone h']
      · rw [hoff spot hspot]
    | cons segment rest ih =>
      rcases segment_cases segment with hidle | rfl | ⟨hidle, hup, hlong⟩ | hstep
      · rw [follow_idle hidle, follow_idle hidle]
        exact ih (fun hrest => h (.idle hidle hrest)) fun hrest => h' (.idle hidle hrest)
      · rw [follow_up, follow_up]
        exact ih (fun hrest => h (.up hrest)) fun hrest => h' (.up hrest)
      · rw [follow_long hidle hup hlong, follow_long hidle hup hlong]
      · by_cases hgoal : spot ++ [segment] = goal
        · rw [found?_of_not_visits hstep hgoal h, found?_of_not_visits hstep hgoal h']
        have hsame := hoff _ hgoal
        rw [follow_step hstep, follow_step hstep, hsame]
        rcases hget : tree.get? (spot ++ [segment]) with _ | ⟨content, x⟩ | path | s
        · rfl
        · rfl
        · simp only [Bool.true_eq_false, and_false, if_false]
          rcases n with _ | n
          · rfl
          · exact ihn n (Nat.lt_succ_self n) (fun hrest => h (.link hstep hget hrest))
              fun hrest => h' (.link hstep (hsame.trans hget) hrest)
        · simp only []
          split
          · rfl
          · exact ih (fun hrest => h (.enter hstep hget hrest))
              fun hrest => h' (.enter hstep (hsame.trans hget) hrest)

/-- Without links a way visits only what its names pass by. -/
theorem Visits.passes (h : tree.Visits goal n spot segments) (hlinkless : tree.Linkless) :
    ∃ front, front <+: segments ∧ descend spot front = goal := by
  induction h with
  | here _ => exact ⟨[], List.nil_prefix, rfl⟩
  | @idle n spot segment rest hidle _ ih =>
    obtain ⟨front, hfront, hgoal⟩ := ih
    exact ⟨segment :: front, List.cons_prefix_cons.mpr ⟨rfl, hfront⟩, by rw [descend, if_pos hidle, hgoal]⟩
  | up _ ih =>
    obtain ⟨front, hfront, hgoal⟩ := ih
    exact ⟨".." :: front, List.cons_prefix_cons.mpr ⟨rfl, hfront⟩, hgoal⟩
  | @reach n spot segment rest entry hstep hgoal _ _ =>
    exact ⟨[segment], List.cons_prefix_cons.mpr ⟨rfl, List.nil_prefix⟩, by rw [descend_step hstep, descend, hgoal]⟩
  | @enter n spot segment rest s hstep _ _ ih =>
    obtain ⟨front, hfront, hgoal⟩ := ih
    exact ⟨segment :: front, List.cons_prefix_cons.mpr ⟨rfl, hfront⟩, by rw [descend_step hstep, hgoal]⟩
  | link _ hget _ _ => exact absurd hget (hlinkless _ _)

theorem Visits.exists_entry (h : tree.Visits goal n spot segments) : ∃ entry, tree.get? goal = some entry := by
  induction h with
  | here hget => exact ⟨_, hget⟩
  | reach _ _ hget _ => exact ⟨_, hget⟩
  | idle _ _ ih | up _ ih | enter _ _ _ ih | link _ _ _ ih => exact ih

/-- A way that does not visit a location leads to the same in a tree that agrees but for it. -/
theorem Leads.of_not_visits {place : Location} {entry : Entry}
    (hoff : ∀ spot, spot ≠ goal → other.get? spot = tree.get? spot)
    (hleads : tree.Leads true n spot segments (.present place entry)) (h : ¬tree.Visits goal n spot segments) :
    other.Leads true n spot segments (.present place entry) := by
  generalize htarget : Target.present place entry = target at hleads ⊢
  induction hleads with
  | @here n spot entry hget =>
    refine .here ((hoff spot ?_).trans hget)
    rintro rfl
    exact h (.here hget)
  | idle hidle _ ih => exact .idle hidle (ih (fun hrest => h (.idle hidle hrest)) htarget)
  | up _ ih => exact .up (ih (fun hrest => h (.up hrest)) htarget)
  | absent _ _ => cases htarget
  | @present n spot segment entry hstep hget hlast =>
    refine .present hstep ((hoff _ fun hgoal => ?_).trans hget) hlast
    exact h (.reach hstep hgoal (hgoal ▸ hget) fun _ => rfl)
  | @enter n spot segment rest target s hstep hget hrest _ ih =>
    refine .enter hstep ((hoff _ fun hgoal => ?_).trans hget) hrest
      (ih (fun hvisits => h (.enter hstep hget hvisits)) htarget)
    exact h (.reach hstep hgoal (hgoal ▸ hget) fun hfile => Bool.noConfusion hfile)
  | @link n spot segment rest target path hstep hget hlast _ ih =>
    refine .link hstep ((hoff _ fun hgoal => ?_).trans hget) hlast
      (ih (fun hvisits => h (.link hstep hget hvisits)) htarget)
    exact h (.reach hstep hgoal (hgoal ▸ hget) fun hfile => Bool.noConfusion hfile)

/-- A way to a directory ends on its way where a file takes the place of what is no directory. -/
theorem Visits.blocked {place : Location} {s x : Bool} {content : ByteArray}
    (hoff : ∀ spot, spot ≠ goal → other.get? spot = tree.get? spot)
    (hfree : ∀ s, tree.get? goal ≠ some (.directory s)) (hfile : other.get? goal = some (.file content x))
    (h : tree.Visits goal n spot segments)
    (hleads : tree.Leads true n spot segments (.present place (.directory s))) (hrest : rest ≠ []) :
    other.follow true n spot (segments ++ rest) = .error .notDirectory := by
  have hblocked : ∀ {n spot segment} {more : List String}, IsStep segment → spot ++ [segment] = goal →
      more ≠ [] → other.follow true n spot (segment :: more) = .error .notDirectory := by
    intro n spot segment more hstep hgoal hmore
    rw [follow_step hstep, hgoal, hfile]
    exact if_neg hmore
  have hsome : ∀ {front : List String}, front ++ rest ≠ [] := by simp [hrest]
  induction h with
  | here hget =>
    cases hleads with
    | here hplace => exact absurd hplace (hfree _)
  | idle hidle _ ih =>
    rw [List.cons_append, follow_idle hidle]
    cases hleads with
    | idle _ hmore => exact ih hmore
    | up _ => exact absurd hidle (by decide)
    | present hstep | enter hstep | link hstep => cases hstep.speaks.symm.trans hidle
  | up _ ih =>
    rw [List.cons_append, follow_up]
    cases hleads with
    | idle hidle _ => exact absurd hidle (by decide)
    | up hmore => exact ih hmore
    | present hstep | enter hstep | link hstep => exact absurd rfl hstep.notUp
  | reach hstep hgoal _ _ => exact hblocked hstep hgoal hsome
  | @enter n spot segment more t hstep hget hvisits ih =>
    have hne : spot ++ [segment] ≠ goal := fun hgoal => hfree t (hgoal ▸ hget)
    rw [List.cons_append, follow_step hstep, hoff _ hne, hget]
    refine (if_neg hsome).trans ?_
    cases hleads with
    | idle hidle _ => cases hstep.speaks.symm.trans hidle
    | up _ => exact absurd rfl hstep.notUp
    | present _ _ _ =>
      cases hvisits with
      | here hgoal => exact absurd rfl hne
    | enter _ _ _ hmore => exact ih hmore
    | link _ hget' _ _ => cases hget.symm.trans hget'
  | @link n spot segment more target hstep hget hvisits ih =>
    by_cases hgoal : spot ++ [segment] = goal
    · exact hblocked hstep hgoal hsome
    rw [List.cons_append, follow_step hstep, hoff _ hgoal, hget]
    refine (if_neg fun hend => hsome hend.1).trans ?_
    cases hleads with
    | idle hidle _ => cases hstep.speaks.symm.trans hidle
    | up _ => exact absurd rfl hstep.notUp
    | present _ hget' _ | enter _ hget' _ _ => cases hget.symm.trans hget'
    | link _ hget' _ hmore =>
      cases hget.symm.trans hget'
      rw [viaLink, ← List.append_assoc]
      exact ih hmore

end FileTree

namespace Files

variable {files other : Files} {goal : Location} {path : Path}

/-- A path leads to what stands at a location or through it. -/
def Visits (files : Files) (path : Path) (goal : Location) : Prop :=
  ∃ begin, files.start path = some begin ∧ files.tree.Visits goal maxLinks begin path.segments

/-- Files are the same but for what stands at one location. -/
structure SameOff (files other : Files) (goal : Location) : Prop where
  here : other.here = files.here
  off : ∀ spot, spot ≠ goal → other.tree.get? spot = files.tree.get? spot

/-- What a path names is found on its way, if the system takes the path at all. -/
theorem find?_eq_found? (files : Files) (path : Path) :
    files.find? path = if path ≠ "" ∧ path.isUsable = true then (files.start path).bind fun begin =>
      PathFault.found? (files.tree.follow true maxLinks begin path.segments) else none := by
  have hfind : files.find? path = PathFault.found? (files.resolve path true) := rfl
  rw [hfind, resolve, start]
  by_cases hempty : path = ""
  · simp [hempty, PathFault.found?]
  cases husable : path.isUsable
  · simp [hempty, PathFault.found?]
  cases habsolute : path.isAbsolute
  · cases files.here <;> simp [hempty, PathFault.found?]
  · simp [hempty]

/-- A path that does not visit a location names the same, whatever stands there. -/
theorem SameOff.find?_eq (hsame : files.SameOff other goal) (h : ¬files.Visits path goal)
    (h' : ¬other.Visits path goal) : other.find? path = files.find? path := by
  have hstart : other.start path = files.start path := by rw [start, start, hsame.here]
  rw [find?_eq_found?, find?_eq_found?, hstart]
  split
  next =>
    rcases hbegin : files.start path with _ | begin
    · rfl
    · exact FileTree.found?_congr hsame.off (fun hvisits => h ⟨begin, hbegin, hvisits⟩)
        fun hvisits => h' ⟨begin, hstart.trans hbegin, hvisits⟩
  next => rfl

/-- Nothing is visited where nothing stands. -/
theorem not_visits_of_absent (h : files.tree.get? goal = none) (path : Path) : ¬files.Visits path goal := by
  rintro ⟨begin, _, hvisits⟩
  obtain ⟨entry, hget⟩ := hvisits.exists_entry
  cases h.symm.trans hget

/-- Without links a path does not visit what none of its names leads to. -/
theorem not_visits_of_linkless {begin : Location} (hlinkless : files.tree.Linkless)
    (hbegin : files.start path = some begin)
    (h : ∀ front, front <+: path.segments → FileTree.descend begin front ≠ goal) : ¬files.Visits path goal := by
  rintro ⟨other, hother, hvisits⟩
  cases hother.symm.trans hbegin
  obtain ⟨front, hfront, hgoal⟩ := hvisits.passes hlinkless
  exact h front hfront hgoal

theorem sameOff_put (files : Files) {goal : Location} (hgoal : goal ≠ []) (entry : Entry) :
    files.SameOff { files with tree := files.tree.put goal entry } goal where
  here := rfl
  off spot hspot := by rw [FileTree.get?_put _ _ _ _ hgoal, if_neg hspot]

end Files

end Precompiler
