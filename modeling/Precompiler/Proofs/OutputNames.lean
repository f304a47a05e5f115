import Mathlib.Data.List.DropRight
import Precompiler.Proofs.Inputs
import Precompiler.Proofs.Naming
import Precompiler.Proofs.Sample

/-! Names of templates and of their outputs.

The name of a template is cut out of the text of its path, the name of its output out of the last
component of the path. On paths that end in a separator, in `.` or in `..` the two disagree, but
nothing of the kind is ever collected: what is collected ends in the name that it reaches, and there
the two cuts are one (`moduleName_eq_resolveName`). What is left of a name has no separator, and with
`.js` at its end it is neither `.` nor `..`. So an output is a child of the destination directory, as
components and in every file system (`Path.isChild_join`), or it stands beside its template
(`Path.parent?_withFileName`), and outputs are the same exactly where names are (`output_named`). -/
namespace Precompiler

/-! ### Components -/

namespace Path

variable {path base : Path} {front : List String} {name new : String}

/-- The component that tells where a path starts, if one does. -/
def origin (path : Path) : List String :=
  if path.isAbsolute then ["/"] else if path.segments.head? = some "." then ["."] else []

/-- The components of a path: where it starts, and the segments that say something. Paths are the same
to a program if their components are. -/
def components (path : Path) : List String := path.origin ++ speaking path.segments

theorem speaking_concat (front : List String) (hname : isIdle name = false) :
    speaking (front ++ [name]) = speaking front ++ [name] := by
  rw [speaking_append]
  simp [speaking, hname]

theorem ne_dot_of_not_idle (hname : isIdle name = false) : name ≠ "." := by
  rintro rfl
  cases hname

/-- A path starts where the directory starts that it is in. -/
theorem origin_directoryPath (h : segments path = front ++ [name]) (hname : isIdle name = false) :
    origin (directoryPath front) = origin path := by
  rw [origin, origin, isAbsolute_directoryPath h, h]
  cases front with
  | nil =>
    have hempty : segments (directoryPath []) = [""] := rfl
    simp [hempty, ne_dot_of_not_idle hname]
  | cons first rest =>
    obtain ⟨idle, hsegments, _⟩ := segments_eq_bare (directoryPath (first :: rest))
    rw [hsegments, bareSegments_directoryPath (bare_of_segments h).1]
    rfl

/-- A path is its parent and its last component. -/
theorem components_of_segments (h : segments path = front ++ [name]) (hname : isIdle name = false) :
    components path = components (directoryPath front) ++ [name] := by
  rw [components, components, origin_directoryPath h hname,
    speaking_directoryPath (bare_of_segments h).1, h, speaking_concat front hname, List.append_assoc]

/-- What a name is put behind begins like the path, unless that is empty. -/
theorem head?_bareSegments (h : path ≠ "") : (bareSegments path).head? = (segments path).head? := by
  have hsplit := List.dropLast_concat_getLast (segments_ne_nil path)
  unfold bareSegments
  split
  next hlast =>
    rw [hlast] at hsplit
    cases hfront : (segments path).dropLast with
    | nil =>
      rw [hfront] at hsplit
      have hpath := ofSegments_segments path
      rw [← hsplit] at hpath
      exact absurd hpath.symm h
    | cons first rest => rw [← hsplit, hfront]; rfl
  next => rfl

theorem origin_join (hbare : '/' ∉ name.toList) (hname : isIdle name = false) :
    origin (join base name) = origin base := by
  have habsolute := isAbsolute_of_not_mem hbare
  by_cases hbase : base = ""
  · have hjoin : join base name = name := by simp [join, habsolute, hbase]
    have hempty : origin "" = [] := rfl
    rw [hjoin, hbase, hempty, origin, habsolute, segments_of_not_mem hbare]
    simp [ne_dot_of_not_idle hname]
  · have hhead := head?_bareSegments hbase
    have hne : bareSegments base ≠ [] := by
      intro hnil
      rw [hnil, List.head?_nil] at hhead
      exact segments_ne_nil base (List.head?_eq_none_iff.mp hhead.symm)
    rw [origin, origin, isAbsolute_join hbase habsolute, segments_join_name hbare,
      List.head?_append_of_ne_nil _ hne, hhead]

/-- A join puts its name behind the components of its base. -/
theorem components_join (hbare : '/' ∉ name.toList) (hname : isIdle name = false) :
    components (join base name) = components base ++ [name] := by
  rw [components, origin_join hbare hname, segments_join_name hbare, speaking_concat _ hname,
    speaking_bareSegments, components, List.append_assoc]

theorem dropIdleEnd_idem (names : List String) : dropIdleEnd (dropIdleEnd names) = dropIdleEnd names := by
  cases names with
  | nil => rfl
  | cons first rest => simp only [dropIdleEnd, List.reverse_reverse, List.dropWhile_idempotent]

theorem parent?_withFileName (h : segments path = front ++ [name]) (hname : isIdle name = false)
    (hup : name ≠ "..") (hbare : '/' ∉ new.toList) (hnew : isIdle new = false) :
    (withFileName path new).parent? = path.parent? := by
  rw [parent?_of_segments (segments_withFileName h hname hup hbare) hnew, parent?_of_segments h hname,
    directoryPath, dropIdleEnd_idem, directoryPath]

end Path

/-! ### Two cuts of one name -/

variable {files : Files} {input d : Path} {directory : Location} {name : String}
  {pattern : ExtensionPattern} {front : List String}

theorem baseNameChars_of_not_mem {text : List Char} (h : '/' ∉ text) : baseNameChars text = text := by
  rw [baseNameChars, List.takeWhile_eq_self_iff.mpr, List.reverse_reverse]
  intro c hc
  simpa using fun heq : c = '/' => h (heq ▸ List.mem_reverse.mp hc)

theorem baseNameChars_append {text : List Char} (before : List Char) (h : '/' ∉ text) :
    baseNameChars (before ++ '/' :: text) = text := by
  have hall : ∀ c ∈ text.reverse, (decide (c ≠ '/')) = true := fun c hc => by
    simpa using fun heq : c = '/' => h (heq ▸ List.mem_reverse.mp hc)
  rw [baseNameChars, List.reverse_append, List.reverse_cons, List.append_assoc,
    List.takeWhile_append_of_pos hall]
  simp

/-- What follows the last separator is the last segment. -/
theorem baseNameChars_of_segments (h : input.segments = front ++ [name]) :
    baseNameChars input.toList = name.toList := by
  have hbare := (Path.bare_of_segments h).2
  rw [← Path.ofSegments_segments input, h]
  cases front with
  | nil =>
    have hname : Path.ofSegments ([] ++ [name]) = name := by simp [Path.ofSegments]
    rw [hname, baseNameChars_of_not_mem hbare]
  | cons first rest =>
    rw [Path.ofSegments_concat (List.cons_ne_nil first rest), String.append_assoc, String.toList_append,
      String.toList_append]
    exact baseNameChars_append _ hbare

/-- Without a root a template has the name that its path reaches, less the extension. -/
theorem Files.Reaches.resolveName_eq (h : files.Reaches input directory name) :
    resolveName input none pattern = pattern.strip name := by
  obtain ⟨front, _, _, hsegments, _⟩ := h
  rw [resolveName, belowRoot, baseNameChars_of_segments hsegments]
  rfl

/-- An output is named after its template. -/
theorem moduleName_eq_resolveName (h : files.Reaches input directory name) :
    Destination.moduleName pattern input = resolveName input none pattern ++ ".js" := by
  rw [Destination.moduleName_eq, h.fileName?, h.resolveName_eq]
  rfl

theorem getLast?_append_js (stem : String) : (stem ++ ".js").toList.getLast? = some 's' := by
  simp

theorem isIdle_append_js (stem : String) : Path.isIdle (stem ++ ".js") = false := by
  rw [Bool.eq_false_iff]
  intro hidle
  have hlast := getLast?_append_js stem
  rcases (by simpa [Path.isIdle] using hidle : stem ++ ".js" = "" ∨ stem ++ ".js" = ".") with h | h <;>
    simp [h] at hlast

theorem append_js_notUp (stem : String) : stem ++ ".js" ≠ ".." := by
  intro h
  have hlast := getLast?_append_js stem
  simp [h] at hlast

theorem append_js_inj {stem other : String} : stem ++ ".js" = other ++ ".js" ↔ stem = other := by
  rw [← String.toList_inj, String.toList_append, String.toList_append, List.append_left_inj,
    String.toList_inj]

/-! ### Where outputs are -/

/-- A path names an entry of a directory. -/
structure Path.IsChild (path directory : Path) (name : String) : Prop where
  components : path.components = directory.components ++ [name]
  fileName : path.fileName? = some name
  parent : path.parent?.map Path.components = some directory.components
  /-- Wherever the directory is, the path leads to what the name stands for in it, or nowhere. -/
  located : ∀ (files : Files) (spot : Location) (s : Bool) (target : Target),
    files.find? directory = some (spot, .directory s) →
      (files.resolve path false = .ok target ↔
        IsStep name ∧ path.isUsable = true ∧ target = files.tree.targetAt spot name)

theorem Path.isChild_join {base : Path} (hbare : '/' ∉ name.toList) (hname : Path.isIdle name = false)
    (hup : name ≠ "..") : (Path.join base name).IsChild base name := by
  have hsegments := @Path.segments_join_name base name hbare
  have hcomponents := @Path.components_join base name hbare hname
  refine ⟨hcomponents, Path.fileName?_of_segments hsegments hname hup, ?_, ?_⟩
  · rw [Path.components_of_segments hsegments hname] at hcomponents
    rw [Path.parent?_of_segments hsegments hname, Option.map_some, List.append_cancel_right hcomponents]
  · intro files spot s target hfind
    obtain ⟨hne, _⟩ := Files.resolve_eq_ok_iff.mp (Files.find?_eq_some_iff.mp hfind)
    have hreaches : IsStep name → files.Reaches (Path.join base name) spot name := fun hstep =>
      Files.reaches_of_splits (Path.splits_join hne hbare) hstep hfind
    constructor
    · intro hresolve
      obtain ⟨_, husable, _⟩ := Files.resolve_eq_ok_iff.mp hresolve
      obtain ⟨_, _, _, _, _, hstep, _⟩ := Files.reaches_of_resolve hresolve hsegments hname hup
      have htarget := hresolve.symm.trans ((hreaches hstep).resolve husable)
      exact ⟨hstep, husable, Except.ok.inj htarget⟩
    · rintro ⟨hstep, husable, rfl⟩
      exact (hreaches hstep).resolve husable

variable {output₁ output₂ : Path} {name₁ name₂ : String}

theorem Path.IsChild.components_eq_iff (h₁ : output₁.IsChild d name₁) (h₂ : output₂.IsChild d name₂) :
    output₁.components = output₂.components ↔ name₁ = name₂ := by
  rw [h₁.components, h₂.components]
  simp

theorem Path.IsChild.spot_eq_iff (h₁ : output₁.IsChild d name₁) (h₂ : output₂.IsChild d name₂)
    {spot : Location} {s : Bool} {target₁ target₂ : Target}
    (hfind : files.find? d = some (spot, .directory s))
    (htarget₁ : files.resolve output₁ false = .ok target₁)
    (htarget₂ : files.resolve output₂ false = .ok target₂) :
    target₁.spot = target₂.spot ↔ name₁ = name₂ := by
  obtain ⟨_, _, rfl⟩ := (h₁.located _ _ _ _ hfind).mp htarget₁
  obtain ⟨_, _, rfl⟩ := (h₂.located _ _ _ _ hfind).mp htarget₂
  simp

/-- An output in a directory is a child of it that is named after its template. -/
theorem Files.Reaches.output_isChild (h : files.Reaches input directory name) (d : Path) :
    (Path.join d (Destination.moduleName pattern input)).IsChild d
      (resolveName input none pattern ++ ".js") := by
  have hbare := Destination.moduleName_bare pattern h
  rw [moduleName_eq_resolveName h] at hbare ⊢
  exact Path.isChild_join hbare (isIdle_append_js _) (append_js_notUp _)

/-- An output beside its template has the same parent, and is named after it. -/
theorem Files.Reaches.output_beside (h : files.Reaches input directory name) :
    let output := Path.withFileName input (Destination.moduleName pattern input)
    output.fileName? = some (resolveName input none pattern ++ ".js") ∧
      output.parent? = input.parent? ∧ input.parent?.isSome = true := by
  have hbare := Destination.moduleName_bare pattern h
  rw [moduleName_eq_resolveName h] at hbare ⊢
  obtain ⟨front, _, _, hsegments, hstep, _⟩ := h
  have houtput := Path.segments_withFileName hsegments hstep.speaks hstep.notUp hbare
  refine ⟨Path.fileName?_of_segments houtput (isIdle_append_js _) (append_js_notUp _),
    Path.parent?_withFileName hsegments hstep.speaks hstep.notUp hbare (isIdle_append_js _), ?_⟩
  rw [Path.parent?_of_segments hsegments hstep.speaks]
  rfl

/-- **Names and outputs agree.** Whatever is collected, its output in a directory is a child of that
directory, and its output beside it has its parent. Both have the name of the template without a root,
with `.js`. So in one directory outputs are the same, as texts, as components and as places of a file
system, exactly if the names are. -/
theorem output_named [Glob.Joining] {sources inputs : List Path} {exclude : List String} {world : World}
    (hsound : world.files.Sound)
    (hinputs : ((collectInputs sources pattern exclude).outcome world).1 = .ok inputs) :
    ∀ input ∈ inputs,
      (∀ d, ∃ output, (Destination.directory d).outputPath pattern input = some output ∧
        output.IsChild d (resolveName input none pattern ++ ".js")) ∧
      (∃ output, Destination.besideInput.outputPath pattern input = some output ∧
        output.fileName? = some (resolveName input none pattern ++ ".js") ∧
        output.parent? = input.parent? ∧ input.parent?.isSome = true) ∧
      ∀ other ∈ inputs, ∀ d output₁ output₂,
        (Destination.directory d).outputPath pattern input = some output₁ →
        (Destination.directory d).outputPath pattern other = some output₂ →
        (output₁ = output₂ ↔ resolveName input none pattern = resolveName other none pattern) ∧
        (output₁.components = output₂.components ↔
          resolveName input none pattern = resolveName other none pattern) ∧
        ∀ (files : Files) (spot : Location) (s : Bool) (target₁ target₂ : Target),
          files.find? d = some (spot, .directory s) →
          files.resolve output₁ false = .ok target₁ → files.resolve output₂ false = .ok target₂ →
          (target₁.spot = target₂.spot ↔
            resolveName input none pattern = resolveName other none pattern) := by
  intro input hinput
  obtain ⟨directory, name, hreaches, _⟩ := collected_reaches hsound hinputs hinput
  refine ⟨fun d => ⟨_, rfl, hreaches.output_isChild d⟩, ⟨_, rfl, hreaches.output_beside⟩, ?_⟩
  intro other hother d output₁ output₂ houtput₁ houtput₂
  obtain ⟨_, _, hreaches', _⟩ := collected_reaches hsound hinputs hother
  obtain rfl := Option.some.inj houtput₁
  obtain rfl := Option.some.inj houtput₂
  have hchild₁ := @Files.Reaches.output_isChild _ _ _ _ pattern hreaches d
  have hchild₂ := @Files.Reaches.output_isChild _ _ _ _ pattern hreaches' d
  have hcomponents := (hchild₁.components_eq_iff hchild₂).trans append_js_inj
  refine ⟨⟨fun heq => hcomponents.mp (congrArg Path.components heq), fun heq => ?_⟩, hcomponents, ?_⟩
  · rw [moduleName_eq_resolveName hreaches, moduleName_eq_resolveName hreaches', heq]
  · intro files spot s target₁ target₂ hfind htarget₁ htarget₂
    exact (hchild₁.spot_eq_iff hchild₂ hfind htarget₁ htarget₂).trans append_js_inj

/-- Two templates of one name in two directories. -/
def Sample.namesakes : World :=
  Sample.worldWith [["d"], ["e"]] [(["d", "a.hbs"], "A"), (["e", "a.handlebars"], "B")]

/-- Templates of one name share their output. -/
theorem output_named_shared : Sample.namesakes.files.Sound ∧
    ∃ output, (Destination.directory "out/").outputPath Sample.pattern "d/./a.hbs" = some output ∧
      (Destination.directory "out/").outputPath Sample.pattern "e/a.handlebars" = some output ∧
      output.IsChild "out/" "a.js" := by
  have hsound : Sample.namesakes.files.Sound := by decide +kernel
  have hinputs : ((collectInputs ["d/./a.hbs", "e"] Sample.pattern []).outcome Sample.namesakes).1 =
      .ok ["d/./a.hbs", "e/a.handlebars"] := by
    decide +kernel
  have hname : resolveName "d/./a.hbs" none Sample.pattern = "a" := by decide +kernel
  have hname' : resolveName "e/a.handlebars" none Sample.pattern = "a" := by decide +kernel
  obtain ⟨hchild, _, hshared⟩ := output_named hsound hinputs "d/./a.hbs" (by simp)
  obtain ⟨hchild', _⟩ := output_named hsound hinputs "e/a.handlebars" (by simp)
  obtain ⟨output, houtput, hisChild⟩ := hchild "out/"
  obtain ⟨other, hother, _⟩ := hchild' "out/"
  have heq := (hshared "e/a.handlebars" (by simp) "out/" output other houtput hother).1.mpr
    (hname.trans hname'.symm)
  rw [hname] at hisChild
  exact ⟨hsound, output, houtput, heq ▸ hother, hisChild⟩

end Precompiler
