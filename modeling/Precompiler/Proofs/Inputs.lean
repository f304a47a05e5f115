import Precompiler.Inputs
import Precompiler.Proofs.Actions
import Precompiler.Proofs.Files.Walk
import Precompiler.Proofs.Naming

/-! What is collected.

Collecting templates only looks at files, and it comes to one block of paths for each source
(`collectInputs_ok_iff`): the source itself, or the templates that the walk of a directory
shows. A walk shows a template in names, which say all about its path, so two trees with the
same templates below a directory give the same block (`templatesIn_congr`). -/
namespace Precompiler

/-- Whether what names lead to is a template. -/
def isTemplate (pattern : ExtensionPattern) (excludes : Excludes) (names : List String) (entry : Entry) :
    Bool :=
  entry.isFile && pattern.isMatch (names.getLastD "") && !excludes.isMatch names

/-- The names of the template that a step shows, if it shows one. -/
def WalkStep.template? (pattern : ExtensionPattern) (excludes : Excludes) : WalkStep → Option (List String)
  | .visit names _ entry => if isTemplate pattern excludes names entry then some names else none
  | .unlisted _ => none

/-- The names of the templates below a directory, in the order of its walk. -/
def FileTree.templatesIn (tree : FileTree) (pattern : ExtensionPattern) (excludes : Excludes)
    (spot : Location) (source : Path) : List (List String) :=
  (tree.walk spot source).filterMap (WalkStep.template? pattern excludes)

/-- The paths that a source contributes. -/
inductive Contributes (pattern : ExtensionPattern) (excludes : Excludes) (files : Files)
    (source : Path) : List Path → Prop where
  | alone {spot : Location} {entry : Entry} : files.find? source = some (spot, entry) →
      entry.isDirectory = false → Contributes pattern excludes files source [source]
  | below {spot : Location} {s : Bool} : files.find? source = some (spot, .directory s) →
      (∀ path, .unlisted path ∉ files.tree.walk spot source) →
      Contributes pattern excludes files source
        ((files.tree.templatesIn pattern excludes spot source).map (walkPath source))

variable {pattern : ExtensionPattern} {excludes : Excludes} {source input : Path}

/-! ### Collecting looks -/

theorem templateOfStep_looks (pattern : ExtensionPattern) (excludes : Excludes) (source : Path)
    (step : WalkStep) : (templateOfStep pattern excludes source step).Looks := by
  cases step with
  | unlisted path => exact .throw _
  | visit names path entry =>
    simp only [templateOfStep]
    split
    · exact .pure _
    · split
      · exact (Action.Looks.log _).bind fun _ => .pure _
      · exact .pure _

theorem templatesOf_looks (pattern : ExtensionPattern) (excludes : Excludes) (source : Path) :
    (templatesOf pattern excludes source).Looks := by
  refine Action.Looks.files.bind fun files => ?_
  split
  · exact .throw _
  · exact (Action.Looks.mapM (templateOfStep_looks pattern excludes source) _).bind fun _ => .pure _
  · exact .pure _

theorem collectInputs_looks [Glob.Joining] (sources : List Path) (pattern : ExtensionPattern)
    (exclude : List String) : (collectInputs sources pattern exclude).Looks :=
  (Action.Looks.ofExcept _).bind fun excludes =>
    (Action.Looks.mapM (templatesOf_looks pattern excludes) sources).bind fun _ => .pure _

/-! ### What each source contributes -/

/-- A step comes to the path of its template, unless it is stuck. -/
theorem templateOfStep_ok_iff {step : WalkStep} {world : World} {path : Option Path} :
    ((templateOfStep pattern excludes source step).outcome world).1 = .ok path ↔
      ∃ names goal entry, step = .visit names goal entry ∧
        path = if isTemplate pattern excludes names entry then some goal else none := by
  cases step with
  | unlisted path => simp [templateOfStep]
  | visit names goal entry =>
    have hrun : ((templateOfStep pattern excludes source (.visit names goal entry)).outcome world).1 =
        .ok (if isTemplate pattern excludes names entry then some goal else none) := by
      rcases Bool.eq_false_or_eq_true entry.isFile with hfile | hfile <;>
        rcases Bool.eq_false_or_eq_true (pattern.isMatch (names.getLastD "")) with hmatch | hmatch <;>
        rcases Bool.eq_false_or_eq_true (excludes.isMatch names) with hexcluded | hexcluded <;>
        (rw [templateOfStep, isTemplate, hfile, hmatch, hexcluded]; rfl)
    rw [hrun]
    constructor
    · intro h
      exact ⟨names, goal, entry, rfl, (Except.ok.inj h).symm⟩
    · rintro ⟨_, _, _, heq, rfl⟩
      cases heq
      rfl

/-- What a walk that is stuck nowhere contributes, if the paths are those of the names. -/
theorem mapM_templateOfStep_ok_iff {steps : List WalkStep} {world : World} {paths : List (Option Path)}
    (hpaths : ∀ names path entry, .visit names path entry ∈ steps → path = walkPath source names) :
    ((steps.mapM (templateOfStep pattern excludes source)).outcome world).1 = .ok paths ↔
      (∀ path, .unlisted path ∉ steps) ∧
        paths = steps.map fun step => (step.template? pattern excludes).map (walkPath source) := by
  rw [Action.Looks.mapM_ok_iff (templateOfStep_looks pattern excludes source)]
  induction steps generalizing paths with
  | nil => simp
  | cons step steps ih =>
    have ih := fun paths => @ih paths fun names path entry hmem =>
      hpaths names path entry (List.mem_cons_of_mem _ hmem)
    simp only [List.forall₂_cons_left_iff, ih]
    simp only [templateOfStep_ok_iff]
    cases step with
    | unlisted path =>
      simp only [reduceCtorEq, false_and, exists_const, List.mem_cons, false_iff, not_and]
      exact fun hlisted => absurd (.inl rfl) (hlisted path)
    | visit names path entry =>
      obtain rfl := hpaths names path entry List.mem_cons_self
      have htemplate : (if isTemplate pattern excludes names entry then some (walkPath source names)
          else none) = (WalkStep.template? pattern excludes (.visit names (walkPath source names) entry)).map
            (walkPath source) := by
        rw [WalkStep.template?]
        split <;> rfl
      simp only [List.mem_cons, reduceCtorEq, false_or, List.map_cons, ← htemplate]
      constructor
      · rintro ⟨_, _, ⟨_, _, _, heq, rfl⟩, ⟨hlisted, rfl⟩, rfl⟩
        cases heq
        exact ⟨hlisted, rfl⟩
      · rintro ⟨hlisted, rfl⟩
        exact ⟨_, _, ⟨_, _, _, rfl, rfl⟩, ⟨hlisted, rfl⟩, rfl⟩

/-- A source comes to what it contributes, or fails. -/
theorem templatesOf_ok_iff {world : World} {block : List Path} (hsound : world.files.tree.Sound) :
    ((templatesOf pattern excludes source).outcome world).1 = .ok block ↔
      Contributes pattern excludes world.files source block := by
  rw [templatesOf, Action.outcome_bind_ok (Action.outcome_files world)]
  rcases hfind : world.files.find? source with _ | ⟨spot, entry⟩
  · simp only [Action.outcome_throw, reduceCtorEq, false_iff]
    rintro (⟨h, _⟩ | ⟨h, _⟩) <;> simp [hfind] at h
  · have halone : entry.isDirectory = false → (Contributes pattern excludes world.files source block ↔
        [source] = block) := by
      intro hentry
      constructor
      · rintro (_ | ⟨h, _⟩)
        · rfl
        · rw [hfind, Option.some.injEq, Prod.mk.injEq] at h
          simp [h.2, Entry.isDirectory] at hentry
      · rintro rfl
        exact .alone hfind hentry
    cases entry with
    | file content x => simpa using (halone rfl).symm
    | link path => simpa using (halone rfl).symm
    | directory s =>
      have hpaths : ∀ names path entry, .visit names path entry ∈ world.files.tree.walk spot source →
          path = walkPath source names := fun names path entry hmem =>
        ((FileTree.mem_walk_visit_iff hsound).mp hmem).2.1
      have hwalk := fun paths => @mapM_templateOfStep_ok_iff pattern excludes source
        (world.files.tree.walk spot source) world paths hpaths
      have hblock : ((world.files.tree.walk spot source).map fun step =>
          (step.template? pattern excludes).map (walkPath source)).filterMap id =
            (world.files.tree.templatesIn pattern excludes spot source).map (walkPath source) := by
        rw [FileTree.templatesIn, List.map_filterMap, List.filterMap_map]
        rfl
      simp only [Action.outcome_bind]
      rcases hrun : ((world.files.tree.walk spot source).mapM
        (templateOfStep pattern excludes source)).outcome world with ⟨_ | paths, left⟩
      · simp only [hrun, reduceCtorEq, false_iff, not_and] at hwalk
        simp only [reduceCtorEq, false_iff]
        rintro (⟨h, hentry⟩ | ⟨h, hlisted⟩)
        · rw [hfind, Option.some.injEq, Prod.mk.injEq] at h
          simp [← h.2, Entry.isDirectory] at hentry
        · cases hfind.symm.trans h
          exact hwalk _ hlisted rfl
      · rw [hrun] at hwalk
        obtain ⟨hlisted, rfl⟩ := (hwalk _).mp rfl
        simp only [Action.outcome_pure, Except.ok.injEq, hblock]
        constructor
        · rintro rfl
          exact .below hfind hlisted
        · rintro (⟨h, hentry⟩ | ⟨h, _⟩)
          · rw [hfind, Option.some.injEq, Prod.mk.injEq] at h
            simp [← h.2, Entry.isDirectory] at hentry
          · cases hfind.symm.trans h
            rfl

/-- No patterns can always be put together. -/
theorem Excludes.ofList_nil [Glob.Joining] : ofList [] = .ok [] := by
  show (if !Glob.Joining.joins [] then _ else _) = _
  rw [Glob.Joining.joins_nil]
  rfl

/-- Collecting comes to what the sources contribute, one after another. -/
theorem collectInputs_ok_iff [Glob.Joining] {sources inputs : List Path} {exclude : List String}
    {world : World} (hsound : world.files.tree.Sound) :
    ((collectInputs sources pattern exclude).outcome world).1 = .ok inputs ↔
      ∃ excludes, Excludes.ofList exclude = .ok excludes ∧
        ∃ blocks, List.Forall₂ (Contributes pattern excludes world.files) sources blocks ∧
          blocks.flatten = inputs := by
  simp only [collectInputs, Action.outcome_bind, Action.outcome_ofExcept]
  rcases Excludes.ofList exclude with failure | excludes
  · simp
  · have hblocks := fun blocks => @Action.Looks.mapM_ok_iff _ _ _ (templatesOf_looks pattern excludes)
      sources blocks world
    simp only [templatesOf_ok_iff hsound] at hblocks
    simp only [Except.ok.injEq, exists_eq_left']
    rcases hrun : (sources.mapM (templatesOf pattern excludes)).outcome world with ⟨_ | blocks, left⟩
    · simp only [hrun, reduceCtorEq, false_iff] at hblocks
      simp [hblocks]
    · simp only [hrun, Except.ok.injEq] at hblocks
      simp [← hblocks]

/-- One directory gives the templates below it, if all of it is listed. -/
theorem collectInputs_walked [Glob.Joining] {world : World} {spot : Location} {s : Bool} {all : List (List String)}
    (hsound : world.files.tree.Sound) (hfind : world.files.find? source = some (spot, .directory s))
    (hlisted : ∀ step ∈ world.files.tree.walk spot source, step.names?.isSome = true)
    (hall : world.files.tree.templatesIn pattern [] spot source = all) :
    ((collectInputs [source] pattern []).outcome world).1 = .ok (all.map (walkPath source)) := by
  have hbelow : Contributes pattern [] world.files source _ :=
    .below hfind fun path hstuck => Bool.noConfusion (hlisted _ hstuck)
  rw [hall] at hbelow
  exact (collectInputs_ok_iff hsound).mpr ⟨[], Excludes.ofList_nil, _, .cons hbelow .nil, by simp⟩

/-! ### The templates below a directory -/

namespace FileTree

variable {tree other : FileTree} {spot : Location} {names : List String}

/-- The templates below a directory are the files that count as templates there, as far as the ways
to them are usable. -/
theorem mem_templatesIn_iff (h : tree.Sound) :
    names ∈ tree.templatesIn pattern excludes spot source ↔
      names ≠ [] ∧ IsWay source names ∧
        ∃ entry, tree.get? (spot ++ names) = some entry ∧ isTemplate pattern excludes names entry = true := by
  rw [templatesIn, List.mem_filterMap]
  constructor
  · rintro ⟨_ | path, hmem, htemplate⟩
    · rw [WalkStep.template?] at htemplate
      split at htemplate
      next hentry =>
        cases htemplate
        obtain ⟨hne, _, hget, hway⟩ := (mem_walk_visit_iff h).mp hmem
        exact ⟨hne, hway, _, hget, hentry⟩
      next => cases htemplate
    · cases htemplate
  · rintro ⟨hne, hway, entry, hget, hentry⟩
    refine ⟨_, (mem_walk_visit_iff h).mpr ⟨hne, rfl, hget, hway⟩, ?_⟩
    rw [WalkStep.template?, if_pos hentry]

theorem templatesIn_increasing (h : tree.Sound) :
    (tree.templatesIn pattern excludes spot source).Pairwise (· < ·) := by
  have hnames : ∀ {step : WalkStep} {names : List String},
      step.template? pattern excludes = some names → names ∈ step.names? := by
    rintro (_ | path) names htemplate
    · rw [WalkStep.template?] at htemplate
      split at htemplate
      · exact htemplate
      · cases htemplate
    · cases htemplate
  rw [templatesIn, List.pairwise_filterMap]
  exact (walk_increasing h).imp fun hbefore names hfirst more hnext =>
    hbefore names (hnames hfirst) more (hnames hnext)

/-- A template below a directory comes once. -/
theorem templatesIn_nodup (h : tree.Sound) : (tree.templatesIn pattern excludes spot source).Nodup :=
  (templatesIn_increasing h).imp (S := (· ≠ ·)) fun {names _} hlt heq => List.lt_irrefl names (heq ▸ hlt)

/-- The templates below a directory are known by what counts as a template there. -/
theorem templatesIn_congr (h : tree.Sound) (hother : other.Sound)
    (hsame : ∀ names, names ≠ [] →
      ((∃ entry, other.get? (spot ++ names) = some entry ∧ isTemplate pattern excludes names entry = true) ↔
        ∃ entry, tree.get? (spot ++ names) = some entry ∧ isTemplate pattern excludes names entry = true)) :
    other.templatesIn pattern excludes spot source = tree.templatesIn pattern excludes spot source := by
  have hmem : ∀ names, names ∈ other.templatesIn pattern excludes spot source ↔
      names ∈ tree.templatesIn pattern excludes spot source := fun names => by
    rw [mem_templatesIn_iff h, mem_templatesIn_iff hother]
    exact and_congr_right fun hne => and_congr_right fun _ => hsame names hne
  exact ((List.perm_ext_iff_of_nodup (templatesIn_nodup hother) (templatesIn_nodup h)).mpr hmem).eq_of_pairwise
    (fun _ _ _ _ hlt hgt => absurd hgt (List.lt_asymm hlt))
    (templatesIn_increasing hother) (templatesIn_increasing h)

end FileTree

/-- A directory with nothing in it contributes nothing. -/
theorem contributes_empty {files : Files} {spot : Location} (hsound : files.tree.Sound) {s : Bool}
    (hfind : files.find? source = some (spot, .directory s)) (husable : source.isUsable = true)
    (hempty : ∀ names, names ≠ [] → files.tree.get? (spot ++ names) = none) :
    Contributes pattern excludes files source [] := by
  have hblock : files.tree.templatesIn pattern excludes spot source = [] := by
    refine List.eq_nil_iff_forall_not_mem.mpr fun names hnames => ?_
    obtain ⟨hne, _, entry, hget, _⟩ := (FileTree.mem_templatesIn_iff hsound).mp hnames
    cases (hempty names hne).symm.trans hget
  have hbelow : Contributes pattern excludes files source
      ((files.tree.templatesIn pattern excludes spot source).map (walkPath source)) := by
    refine .below hfind fun path hstuck => ?_
    obtain ⟨names, rfl, hstuck, ⟨s, hget⟩, _⟩ :=
      (FileTree.mem_walk_unlisted_iff hsound ⟨_, Files.get?_of_find? hfind⟩).mp hstuck
    by_cases hne : names = []
    · rw [hne, walkPath_nil, husable] at hstuck
      cases hstuck
    · cases (hempty names hne).symm.trans hget
  rwa [hblock] at hbelow

/-- What a source contributes is reached by its name, which is one of a template unless it is the
source itself. -/
theorem Contributes.reaches {files : Files} {block : List Path} (hsound : files.Sound)
    (h : Contributes pattern excludes files source block) (hinput : input ∈ block) :
    ∃ directory name, files.Reaches input directory name ∧
      (pattern.isMatch name = true ∨ input = source ∧ files.isDirectory source = false) := by
  cases h with
  | @alone spot entry hfind hentry =>
    obtain rfl := List.mem_singleton.mp hinput
    obtain ⟨directory, name, hreaches⟩ := hsound.reaches hfind hentry
    refine ⟨directory, name, hreaches, .inr ⟨rfl, ?_⟩⟩
    rw [Files.isDirectory, hfind]
    exact hentry
  | @below spot s hfind _ =>
    obtain ⟨names, hnames, rfl⟩ := List.mem_map.mp hinput
    obtain ⟨hne, _, entry, hget, htemplate⟩ := (FileTree.mem_templatesIn_iff hsound.tree).mp hnames
    obtain ⟨front, name, rfl⟩ : ∃ front name, names = front ++ [name] :=
      ⟨_, _, (List.dropLast_concat_getLast hne).symm⟩
    refine ⟨_, name, hsound.reaches_below hfind hget, .inl ?_⟩
    simp only [isTemplate, List.getLastD_concat, Bool.and_eq_true] at htemplate
    exact htemplate.1.2

/-- Whatever is collected is reached by its name. -/
theorem collected_reaches [Glob.Joining] {sources inputs : List Path} {exclude : List String} {world : World}
    (hsound : world.files.Sound)
    (h : ((collectInputs sources pattern exclude).outcome world).1 = .ok inputs)
    (hinput : input ∈ inputs) :
    ∃ directory name, world.files.Reaches input directory name ∧
      (pattern.isMatch name = true ∨ input ∈ sources ∧ world.files.isDirectory input = false) := by
  obtain ⟨excludes, _, blocks, hblocks, rfl⟩ := (collectInputs_ok_iff hsound.tree).mp h
  obtain ⟨block, hblock, hmem⟩ := List.mem_flatten.mp hinput
  obtain ⟨source, hsource, hcontributes⟩ := Action.exists_of_forall₂ hblocks hblock
  obtain ⟨directory, name, hreaches, hname⟩ := hcontributes.reaches hsound hmem
  refine ⟨directory, name, hreaches, hname.imp_right ?_⟩
  rintro ⟨rfl, hdirectory⟩
  exact ⟨hsource, hdirectory⟩

end Precompiler
