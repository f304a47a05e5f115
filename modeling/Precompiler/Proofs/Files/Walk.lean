import Precompiler.Files.Walk
import Precompiler.Proofs.Files.Reach

/-! Walks, by what they visit.

A walk of a sound tree visits exactly what stands below the directory, as far as the paths to
it are usable (`mem_walk_visit_iff`), and it gets stuck at just those directories whose own
paths are not (`mem_walk_unlisted_iff`). The names that lead to what it visits strictly
increase, compared one by one (`walk_increasing`). So a walk is known by what it visits, and
neither the order of a listing nor anything that is not visited makes a difference. -/
namespace Precompiler

/-- The path of what names lead to, below a path. -/
def walkPath (path : Path) (names : List String) : Path := names.foldl Path.join path

@[simp] theorem walkPath_nil (path : Path) : walkPath path [] = path := rfl

@[simp] theorem walkPath_cons (path : Path) (name : String) (names : List String) :
    walkPath path (name :: names) = walkPath (path.join name) names := rfl

theorem walkPath_concat (path : Path) (names : List String) (name : String) :
    walkPath path (names ++ [name]) = (walkPath path names).join name := by
  simp [walkPath]

/-- The paths of all directories on the way that names lead are usable. -/
def IsWay (path : Path) (names : List String) : Prop :=
  ∀ front back, names = front ++ back → back ≠ [] → (walkPath path front).isUsable = true

theorem isWay_nil (path : Path) : IsWay path [] := fun _ _ heq hback =>
  absurd (List.append_eq_nil_iff.mp heq.symm).2 hback

theorem isWay_cons {path : Path} {name : String} {names : List String} :
    IsWay path (name :: names) ↔ path.isUsable = true ∧ IsWay (path.join name) names := by
  constructor
  · intro h
    exact ⟨h [] _ rfl (by simp), fun front back heq hback => h (name :: front) back (by simp [heq]) hback⟩
  · rintro ⟨hpath, hrest⟩ front back heq hback
    cases front with
    | nil => exact hpath
    | cons first front =>
      obtain ⟨rfl, hnames⟩ := List.cons.inj heq
      exact hrest front back hnames hback

/-- The names that lead to what a step visits. -/
def WalkStep.names? : WalkStep → Option (List String)
  | .visit names _ _ => some names
  | .unlisted _ => none

/-- A step comes before another: what it visits is led to by lesser names. -/
def WalkStep.Before (step next : WalkStep) : Prop :=
  ∀ names ∈ step.names?, ∀ more ∈ next.names?, names < more

namespace FileTree

variable {tree : FileTree} {spot : Location} {name : String} {names before : List String} {path base : Path}
  {entry : Entry} {n : Nat}

/-! ### What a directory lists -/

theorem Sound.mem_listing_iff (h : tree.Sound) :
    (name, entry) ∈ tree.listing spot ↔ tree.get? (spot ++ [name]) = some entry := by
  have hmem : (spot ++ [name], entry) ∈ tree.entries ↔ tree.get? (spot ++ [name]) = some entry := by
    rw [h.mem_iff]
    simp
  rw [← hmem, listing, List.mem_filterMap]
  constructor
  · rintro ⟨⟨goal, e⟩, he, hname⟩
    rcases List.eq_nil_or_concat goal with rfl | ⟨front, last, rfl⟩
    · simp [nameIn] at hname
    · rw [List.concat_eq_append] at he hname
      simp only [nameIn, List.getLast?_concat, List.dropLast_concat] at hname
      split at hname
      next heq =>
        simp only [Option.map_some, Option.some.injEq, Prod.mk.injEq] at hname
        obtain ⟨rfl, rfl⟩ := hname
        exact heq ▸ he
      next => cases hname
  · intro he
    exact ⟨_, he, by simp [nameIn]⟩

theorem mem_sortedListing_iff (h : tree.Sound) :
    (name, entry) ∈ tree.sortedListing spot ↔ tree.get? (spot ++ [name]) = some entry := by
  rw [sortedListing, List.mem_mergeSort, h.mem_listing_iff]

/-- A directory lists each name once. -/
theorem listing_nodup (honce : (tree.entries.map (·.1)).Nodup) (spot : Location) :
    (tree.listing spot).Pairwise fun a b => a.1 ≠ b.1 := by
  rw [listing, List.pairwise_filterMap]
  refine (List.pairwise_map.mp honce).imp fun {e e'} hne a ha b hb heq => hne ?_
  have hspot : ∀ {e : Location × Entry} {a : String × Entry},
      (nameIn spot e.1).map (·, e.2) = some a → e.1 = spot ++ [a.1] := by
    rintro ⟨goal, e⟩ ⟨name, e'⟩ hname
    rcases List.eq_nil_or_concat goal with rfl | ⟨front, last, rfl⟩
    · simp [nameIn] at hname
    · simp only [nameIn, List.concat_eq_append, List.getLast?_concat, List.dropLast_concat] at hname ⊢
      split at hname <;> simp_all
  rw [hspot ha, hspot hb, heq]

theorem sortedListing_increasing (honce : (tree.entries.map (·.1)).Nodup) (spot : Location) :
    (tree.sortedListing spot).Pairwise fun a b => a.1 < b.1 := by
  have hsorted : (tree.sortedListing spot).Pairwise fun a b => (!decide (b.1 < a.1)) = true := by
    refine List.pairwise_mergeSort (fun a b c hab hbc => ?_) (fun a b => ?_) _
    · simp only [Bool.not_eq_true', decide_eq_false_iff_not, Std.not_lt] at hab hbc ⊢
      exact Std.le_trans hab hbc
    · simp only [Bool.or_eq_true, Bool.not_eq_true', decide_eq_false_iff_not, Std.not_lt]
      exact Std.le_total
  have hdistinct : (tree.sortedListing spot).Pairwise fun a b => a.1 ≠ b.1 :=
    (listing_nodup honce spot).perm (List.mergeSort_perm _ _).symm fun hne => hne.symm
  refine (hsorted.and hdistinct).imp fun {a b} hab => ?_
  simp only [Bool.not_eq_true', decide_eq_false_iff_not, Std.not_lt] at hab
  exact Std.lt_of_le_of_ne hab.1 hab.2

/-- A directory has one listing in the order of the names. -/
theorem sortedListing_eq (h : tree.Sound) {spot : Location} {entries : List (String × Entry)}
    (hlisting : (tree.listing spot).Perm entries) (hsorted : entries.Pairwise fun a b => a.1 < b.1) :
    tree.sortedListing spot = entries := by
  have hperm : (tree.sortedListing spot).Perm entries := (List.mergeSort_perm _ _).trans hlisting
  refine hperm.eq_of_pairwise (fun a b _ _ hab hba => ?_) (sortedListing_increasing h.once spot) hsorted
  exact absurd (Std.lt_trans hab hba) (Std.lt_irrefl)

/-! ### What a walk visits -/

theorem walkWithin_unusable (hpath : base.isUsable = false) :
    tree.walkWithin (n + 1) spot base before = [.unlisted base] := by
  simp [walkWithin, hpath]

theorem mem_walkWithin {step : WalkStep} (hpath : base.isUsable = true) (h : tree.Sound) :
    step ∈ tree.walkWithin (n + 1) spot base before ↔
      ∃ name entry, tree.get? (spot ++ [name]) = some entry ∧
        (step = .visit (before ++ [name]) (base.join name) entry ∨
          entry.isDirectory = true ∧
            step ∈ tree.walkWithin n (spot ++ [name]) (base.join name) (before ++ [name])) := by
  simp only [walkWithin, hpath, Bool.not_true, Bool.false_eq_true, if_false, List.mem_flatMap,
    Prod.exists, mem_sortedListing_iff h, List.mem_cons]
  refine exists_congr fun name => exists_congr fun entry => and_congr_right fun _ => or_congr_right ?_
  split <;> simp_all

theorem mem_walkWithin_visit_iff (h : tree.Sound) :
    .visit names path entry ∈ tree.walkWithin n spot base before ↔
      ∃ below, below ≠ [] ∧ below.length ≤ n ∧ names = before ++ below ∧
        path = walkPath base below ∧ tree.get? (spot ++ below) = some entry ∧ IsWay base below := by
  induction n generalizing spot base before with
  | zero =>
    simp only [walkWithin, List.not_mem_nil, false_iff]
    rintro ⟨below, hne, hlength, _⟩
    exact hne (List.length_eq_zero_iff.mp (Nat.le_zero.mp hlength))
  | succ n ih =>
    cases hpath : base.isUsable
    · rw [walkWithin_unusable hpath]
      simp only [List.mem_singleton, reduceCtorEq, false_iff]
      rintro ⟨below, hne, _, _, _, _, hway⟩
      exact Bool.noConfusion (hpath.symm.trans (hway [] below rfl hne))
    rw [mem_walkWithin hpath h]
    constructor
    · rintro ⟨name, other, hget, hvisit | ⟨_, hmem⟩⟩
      · cases hvisit
        exact ⟨[name], by simp, by simp, rfl, rfl, hget, isWay_cons.mpr ⟨hpath, isWay_nil _⟩⟩
      · obtain ⟨below, _, hlength, rfl, rfl, hbelow, hway⟩ := ih.mp hmem
        exact ⟨name :: below, by simp, by simpa using hlength, by simp, rfl, by simpa using hbelow,
          isWay_cons.mpr ⟨hpath, hway⟩⟩
    · rintro ⟨_ | ⟨name, below⟩, hne, hlength, rfl, rfl, hget, hway⟩
      · exact absurd rfl hne
      · by_cases hbelow : below = []
        · subst hbelow
          exact ⟨name, entry, hget, .inl rfl⟩
        · have hrest : tree.get? ((spot ++ [name]) ++ below) = some entry := by simpa using hget
          obtain ⟨s, hdirectory⟩ := (h.above hrest).2 hbelow
          refine ⟨name, .directory s, hdirectory, .inr ⟨rfl, ih.mpr ⟨below, hbelow, ?_, by simp, rfl,
            hrest, (isWay_cons.mp hway).2⟩⟩⟩
          simpa using hlength

theorem mem_walkWithin_unlisted_iff (h : tree.Sound) :
    .unlisted path ∈ tree.walkWithin n spot base before ↔
      ∃ below, below.length < n ∧ path = walkPath base below ∧ path.isUsable = false ∧
        (below ≠ [] → tree.HasDirectory (spot ++ below)) ∧ IsWay base below := by
  induction n generalizing spot base before with
  | zero => simp [walkWithin]
  | succ n ih =>
    cases hpath : base.isUsable
    · rw [walkWithin_unusable hpath]
      constructor
      · intro hmem
        cases List.mem_singleton.mp hmem
        exact ⟨[], by simp, rfl, hpath, fun hne => absurd rfl hne, isWay_nil _⟩
      · rintro ⟨_ | ⟨name, below⟩, _, rfl, _, _, hway⟩
        · exact List.mem_singleton_self _
        · simp [(isWay_cons.mp hway).1] at hpath
    rw [mem_walkWithin hpath h]
    constructor
    · rintro ⟨name, other, hget, hvisit | ⟨hother, hmem⟩⟩
      · cases hvisit
      · obtain ⟨below, hlength, rfl, husable, hbelow, hway⟩ := ih.mp hmem
        have hdirectory : tree.HasDirectory (spot ++ [name]) := by
          cases other <;> simp [Entry.isDirectory] at hother
          exact ⟨_, hget⟩
        refine ⟨name :: below, by simpa using hlength, rfl, husable, fun _ => ?_,
          isWay_cons.mpr ⟨hpath, hway⟩⟩
        by_cases hnil : below = []
        · exact hnil ▸ hdirectory
        · simpa using hbelow hnil
    · rintro ⟨_ | ⟨name, below⟩, hlength, rfl, husable, hbelow, hway⟩
      · simp [hpath] at husable
      · have hall : tree.HasDirectory ((spot ++ [name]) ++ below) := by simpa using hbelow (by simp)
        obtain ⟨s, hget⟩ : tree.HasDirectory (spot ++ [name]) := by
          by_cases hnil : below = []
          · simpa [hnil] using hall
          · obtain ⟨_, hget⟩ := hall
            exact (h.above hget).2 hnil
        exact ⟨name, .directory s, hget, .inr ⟨rfl, ih.mpr ⟨below, by simpa using hlength, rfl, husable,
          fun _ => hall, (isWay_cons.mp hway).2⟩⟩⟩

theorem lt_height (hget : tree.get? spot = some entry) : spot.length < tree.height := by
  have hfold : ∀ (entries : List (Location × Entry)) (m : Nat),
      m ≤ entries.foldl (fun n e => max n (e.1.length + 1)) m ∧
        ∀ e ∈ entries, e.1.length < entries.foldl (fun n e => max n (e.1.length + 1)) m := by
    intro entries
    induction entries with
    | nil => simp
    | cons head rest ih =>
      intro m
      obtain ⟨hle, hrest⟩ := ih (max m (head.1.length + 1))
      rw [List.foldl_cons]
      refine ⟨by omega, fun e he => ?_⟩
      rcases List.mem_cons.mp he with rfl | he
      · omega
      · exact hrest e he
  unfold get? at hget
  split at hget
  next hnil =>
    rw [hnil]
    exact (hfold tree.entries 1).1
  next => exact (hfold tree.entries 1).2 _ (mem_of_lookup hget)

/-- A walk of a sound tree visits what stands below the directory, on usable ways. -/
theorem mem_walk_visit_iff (h : tree.Sound) :
    .visit names path entry ∈ tree.walk spot base ↔
      names ≠ [] ∧ path = walkPath base names ∧ tree.get? (spot ++ names) = some entry ∧
        IsWay base names := by
  rw [walk, mem_walkWithin_visit_iff h]
  constructor
  · rintro ⟨below, hne, _, rfl, rfl, hget, hway⟩
    exact ⟨by simpa using hne, by simp, by simpa using hget, by simpa using hway⟩
  · rintro ⟨hne, hpath, hget, hway⟩
    have hlength := lt_height hget
    rw [List.length_append] at hlength
    exact ⟨names, hne, by omega, rfl, hpath, hget, hway⟩

/-- A walk of a sound tree gets stuck at directories on usable ways whose paths are not usable. -/
theorem mem_walk_unlisted_iff (h : tree.Sound) (hspot : tree.HasDirectory spot) :
    .unlisted path ∈ tree.walk spot base ↔
      ∃ names, path = walkPath base names ∧ path.isUsable = false ∧
        tree.HasDirectory (spot ++ names) ∧ IsWay base names := by
  rw [walk, mem_walkWithin_unlisted_iff h]
  constructor
  · rintro ⟨below, _, hpath, husable, hdirectory, hway⟩
    refine ⟨below, hpath, husable, ?_, hway⟩
    by_cases hnil : below = []
    · simpa [hnil] using hspot
    · exact hdirectory hnil
  · rintro ⟨names, hpath, husable, hdirectory, hway⟩
    obtain ⟨s, hget⟩ := id hdirectory
    have hlength := lt_height hget
    rw [List.length_append] at hlength
    exact ⟨names, by omega, hpath, husable, fun _ => hdirectory, hway⟩

/-- A walk that gets stuck nowhere finds a way to everything below. -/
theorem isWay_of_listed (h : tree.Sound) (hspot : tree.HasDirectory spot)
    (hlisted : ∀ path, .unlisted path ∉ tree.walk spot base)
    (hget : tree.get? (spot ++ names) = some entry) : IsWay base names := by
  induction names generalizing spot base with
  | nil => exact isWay_nil base
  | cons name names ih =>
    have husable : base.isUsable = true := by
      rcases Bool.eq_false_or_eq_true base.isUsable with husable | hstuck
      · exact husable
      · exact absurd ((mem_walk_unlisted_iff h hspot).mpr
          ⟨[], rfl, hstuck, by simpa using hspot, isWay_nil base⟩) (hlisted base)
    by_cases hnil : names = []
    · exact isWay_cons.mpr ⟨husable, hnil ▸ isWay_nil _⟩
    have hbelow : tree.get? (spot ++ [name] ++ names) = some entry := by simpa using hget
    have hdirectory : tree.HasDirectory (spot ++ [name]) := (h.above hbelow).2 hnil
    refine isWay_cons.mpr ⟨husable, ih hdirectory (fun path hstuck => ?_) hbelow⟩
    obtain ⟨below, hpath, hunusable, hthere, hway⟩ := (mem_walk_unlisted_iff h hdirectory).mp hstuck
    exact hlisted path ((mem_walk_unlisted_iff h hspot).mpr
      ⟨name :: below, hpath, hunusable, by simpa using hthere, isWay_cons.mpr ⟨husable, hway⟩⟩)

/-- A walk gets stuck at a directory whose path is too long. -/
theorem walk_stuck (hsound : tree.Sound) (hspot : tree.HasDirectory spot)
    (hdirectory : tree.HasDirectory (spot ++ [name])) (husable : base.isUsable = true)
    (hlong : maxPathBytes < (base.join name).utf8ByteSize) :
    .unlisted (base.join name) ∈ tree.walk spot base := by
  refine (mem_walk_unlisted_iff hsound hspot).mpr
    ⟨[name], rfl, ?_, hdirectory, isWay_cons.mpr ⟨husable, isWay_nil _⟩⟩
  rw [Path.isUsable, decide_eq_false (Nat.not_le.mpr hlong), Bool.false_and]

/-! ### The order of a walk -/

theorem walkWithin_names (h : tree.Sound) {step : WalkStep}
    (hmem : step ∈ tree.walkWithin n spot base before) (hnames : step.names? = some names) :
    ∃ below, below ≠ [] ∧ names = before ++ below := by
  cases step with
  | unlisted path => cases hnames
  | visit all path entry =>
    cases hnames
    obtain ⟨below, hne, _, heq, _⟩ := (mem_walkWithin_visit_iff h).mp hmem
    exact ⟨below, hne, heq⟩

theorem walkWithin_increasing (h : tree.Sound) :
    (tree.walkWithin n spot base before).Pairwise WalkStep.Before := by
  induction n generalizing spot base before with
  | zero => exact .nil
  | succ n ih =>
    cases hpath : base.isUsable
    · rw [walkWithin_unusable hpath]
      exact List.pairwise_singleton ..
    -- What is visited for one listed name is led to by that name.
    have hbehind : ∀ {name : String} {entry : Entry} {step : WalkStep} {names : List String},
        step ∈ (.visit (before ++ [name]) (base.join name) entry :: if entry.isDirectory then
          tree.walkWithin n (spot ++ [name]) (base.join name) (before ++ [name]) else []) →
        step.names? = some names → ∃ below, names = before ++ name :: below := by
      intro name entry step names hmem hnames
      rcases List.mem_cons.mp hmem with rfl | hmem
      · cases hnames
        exact ⟨[], by simp⟩
      · split at hmem
        · obtain ⟨below, _, rfl⟩ := walkWithin_names h hmem hnames
          exact ⟨below, by simp⟩
        · cases hmem
    simp only [walkWithin, hpath, Bool.not_true, Bool.false_eq_true, if_false]
    refine List.pairwise_flatMap.mpr ⟨fun ⟨name, entry⟩ _ => ?_, ?_⟩
    · refine List.pairwise_cons.mpr ⟨fun step hstep names hnames more hmore => ?_, ?_⟩
      · cases hnames
        split at hstep
        · obtain ⟨below, hne, rfl⟩ := walkWithin_names h hstep hmore
          obtain ⟨first, rest, rfl⟩ := List.exists_cons_of_ne_nil hne
          have hlt : before ++ [name] ++ [] < before ++ [name] ++ first :: rest :=
            List.append_left_lt (List.nil_lt_cons first rest)
          simpa using hlt
        · cases hstep
      · split
        · exact ih
        · exact .nil
    · refine (sortedListing_increasing h.once spot).imp ?_
      intro a b hlt step hstep next hnext names hnames more hmore
      obtain ⟨below, rfl⟩ := hbehind hstep hnames
      obtain ⟨below', rfl⟩ := hbehind hnext hmore
      exact List.append_left_lt (List.cons_lt_cons_iff.mpr (.inl hlt))

/-- The names that lead to what a walk visits strictly increase. -/
theorem walk_increasing (h : tree.Sound) : (tree.walk spot base).Pairwise WalkStep.Before :=
  walkWithin_increasing h

end FileTree

/-! ### Paths of a walk -/

theorem segments_walkPath {source : Path} {names : List String} (hne : names ≠ [])
    (hnames : ∀ name ∈ names, IsName name) :
    (walkPath source names).segments = source.bareSegments ++ names := by
  induction hlength : names.length generalizing names with
  | zero => exact absurd (List.length_eq_zero_iff.mp hlength) hne
  | succ n ih =>
    rcases List.eq_nil_or_concat names with rfl | ⟨front, last, rfl⟩
    · exact absurd rfl hne
    rw [List.concat_eq_append] at hlength hnames ⊢
    have hlast := (hnames last (by simp)).bare
    rw [walkPath_concat, Path.segments_join_name hlast, ← List.append_assoc]
    -- What is joined to is the source itself or ends in a name.
    congr 1
    rcases List.eq_nil_or_concat front with rfl | ⟨init, name, rfl⟩
    · simp
    rw [List.concat_eq_append] at hlength hnames ⊢
    have hname : name ≠ "" := by
      rintro rfl
      exact absurd (hnames "" (by simp)).step.speaks (by decide)
    have hfront : (walkPath source (init ++ [name])).segments = source.bareSegments ++ (init ++ [name]) :=
      ih (by simp) (fun other hother => hnames other (List.mem_append_left _ hother)) (by simpa using hlength)
    rw [← List.append_assoc] at hfront ⊢
    exact Path.bareSegments_of_append hfront hname

theorem isAbsolute_walkPath {source : Path} {names : List String} (hsource : source ≠ "")
    (hnames : ∀ name ∈ names, IsName name) : (walkPath source names).isAbsolute = source.isAbsolute := by
  induction names generalizing source with
  | nil => rfl
  | cons name names ih =>
    have hname := Path.isAbsolute_of_not_mem (hnames name List.mem_cons_self).bare
    have hjoin : Path.join source name ≠ "" := by
      rw [Path.join, if_neg (by simp [hname])]
      split <;> simp [hsource]
    rw [walkPath_cons, ih hjoin fun other hother => hnames other (List.mem_cons_of_mem _ hother),
      Path.isAbsolute_join hsource hname]

namespace Files

/-- The path of what stands below a directory reaches its name there. -/
theorem Sound.reaches_below {files : Files} (hsound : files.Sound) {source : Path} {spot : Location}
    {s : Bool} (hfind : files.find? source = some (spot, .directory s)) {front : List String}
    {name : String} {entry : Entry}
    (hget : files.tree.get? (spot ++ (front ++ [name])) = some entry) :
    files.Reaches (walkPath source (front ++ [name])) (spot ++ front) name := by
  obtain ⟨hnames, _⟩ := hsound.tree.above hget
  obtain ⟨hne, _, begin, hbegin, hleads⟩ := resolve_eq_ok_iff.mp (find?_eq_some_iff.mp hfind)
  obtain ⟨m, henters⟩ := hleads.enters_directory
  refine ⟨source.bareSegments ++ front, begin, m, ?_, (hnames name (by simp)).step, ?_, ?_⟩
  · rw [segments_walkPath (by simp) hnames, List.append_assoc]
  · rw [Files.start, isAbsolute_walkPath hne hnames]
    exact hbegin
  · refine (henters.congr (Path.speaking_bareSegments source)).trans
      (FileTree.enters_names (fun other hother => hnames other (by simp [hother])) ?_)
    rintro before back rfl
    have hbelow : files.tree.get? ((spot ++ before) ++ (back ++ [name])) = some entry := by simpa using hget
    exact (hsound.tree.above hbelow).2 (by simp)

end Files

end Precompiler
