import Precompiler.Proofs.Precedence

/-! Layers of any number.

Layers are laid over one another from the bottom up, and what they amount to is known by its parts
(`isStack_iff`): each setting is that of the last layer that says anything about it (`Decides`), and the
exclude patterns of all layers count together, in their order. Laying over is associative, and the layer that
sets nothing is neutral. So it never matters which layers have been laid over one another first
(`Grouping.merged_eq`). -/
namespace Precompiler.Layer

/-! ### Laying over -/

theorem empty_merge (layer : Layer) : empty.merge layer = layer := by
  simp [merge, CompileSettings.merge, EngineSettings.merge, empty, CompileSettings.empty, EngineSettings.empty]

theorem merge_empty (layer : Layer) : layer.merge empty = layer := by
  simp [merge, CompileSettings.merge, EngineSettings.merge, empty, CompileSettings.empty, EngineSettings.empty]

theorem merge_assoc (base middle top : Layer) :
    (base.merge middle).merge top = base.merge (middle.merge top) := by
  simp [merge, CompileSettings.merge, EngineSettings.merge, Option.or_assoc]

instance associativeMerge : Std.Associative merge := ⟨merge_assoc⟩

/-- Layers laid over one another, the first one at the bottom. -/
def stack (layers : List Layer) : Layer := layers.foldl merge empty

theorem stack_concat (layers : List Layer) (top : Layer) : stack (layers ++ [top]) = (stack layers).merge top := by
  rw [stack, List.foldl_append]
  rfl

theorem stack_append (below above : List Layer) : stack (below ++ above) = (stack below).merge (stack above) := by
  calc stack (below ++ above) = above.foldl merge (stack below) := List.foldl_append ..
    _ = above.foldl merge ((stack below).merge empty) := by rw [merge_empty]
    _ = (stack below).merge (stack above) := List.foldl_assoc

/-! ### What decides a setting -/

variable {α : Type} {stacked : List Layer} {setting : Layer → Option α} {value : Option α} {top : Layer}

/-- What some layers say about a setting: what the last one says that says anything about it. -/
inductive Decides (layers : List Layer) (setting : Layer → Option α) : Option α → Prop where
  | set {below above : List Layer} {layer : Layer} {own : α} : layers = below ++ layer :: above →
      setting layer = some own → (∀ other ∈ above, setting other = none) → Decides layers setting (some own)
  | unset : (∀ layer ∈ layers, setting layer = none) → Decides layers setting none

theorem decides_nil_iff : Decides [] setting value ↔ value = none := by
  constructor
  · rintro (⟨heq, _⟩ | _)
    · simp at heq
    · rfl
  · rintro rfl
    exact .unset (by simp)

/-- The topmost layer decides, or it leaves the decision to those below. -/
theorem decides_concat_iff : Decides (stacked ++ [top]) setting value ↔
    (∃ own, setting top = some own ∧ value = some own) ∨ setting top = none ∧ Decides stacked setting value := by
  constructor
  · rintro (⟨heq, hset, hopen⟩ | hopen)
    · next below above layer own =>
      rcases List.eq_nil_or_concat above with rfl | ⟨between, last, rfl⟩
      · obtain ⟨rfl, htop⟩ := List.append_inj' heq rfl
        obtain rfl := List.head_eq_of_cons_eq htop
        exact .inl ⟨own, hset, rfl⟩
      · rw [List.concat_eq_append] at heq hopen
        rw [← List.cons_append, ← List.append_assoc] at heq
        obtain ⟨rfl, htop⟩ := List.append_inj' heq rfl
        obtain rfl := List.head_eq_of_cons_eq htop
        obtain ⟨hbetween, hlast⟩ := List.forall_mem_append.mp hopen
        exact .inr ⟨hlast top List.mem_cons_self, .set rfl hset hbetween⟩
    · obtain ⟨hbelow, htop⟩ := List.forall_mem_append.mp hopen
      exact .inr ⟨htop top List.mem_cons_self, .unset hbelow⟩
  · rintro (⟨own, hset, rfl⟩ | ⟨htop, ⟨heq, hset, hopen⟩ | hopen⟩)
    · exact .set rfl hset (by simp)
    · next below above layer own =>
      have hsplit : stacked ++ [top] = below ++ layer :: (above ++ [top]) := by
        rw [heq, List.append_assoc, List.cons_append]
      exact .set hsplit hset (List.forall_mem_append.mpr ⟨hopen, by simpa using htop⟩)
    · exact .unset (List.forall_mem_append.mpr ⟨hopen, by simpa using htop⟩)

/-- In a stack a setting is what its layers decide. -/
theorem IsSetting.decides_iff (h : IsSetting setting) (layers : List Layer) (value : Option α) :
    Decides layers setting value ↔ value = setting (stack layers) := by
  induction layers using List.reverseRecOn with
  | nil => rw [decides_nil_iff, stack, List.foldl_nil, h.unset]
  | append_singleton below top ih =>
    rw [decides_concat_iff, ih, stack_concat, h.merge]
    cases setting top with
    | none => simp
    | some own => simp

/-! ### Stacks -/

/-- A layer is what other layers amount to: they decide each of its settings, and it has all their exclude
patterns. -/
structure IsStack (layers : List Layer) (merged : Layer) : Prop where
  dest : Decides layers (·.compile.dest) merged.compile.dest
  amd : Decides layers (·.compile.amd) merged.compile.amd
  commonjs : Decides layers (·.compile.commonjs) merged.compile.commonjs
  handlebarPath : Decides layers (·.compile.handlebarPath) merged.compile.handlebarPath
  known : Decides layers (·.compile.known) merged.compile.known
  knownOnly : Decides layers (·.compile.knownOnly) merged.compile.knownOnly
  registry : Decides layers (·.compile.registry) merged.compile.registry
  simple : Decides layers (·.compile.simple) merged.compile.simple
  root : Decides layers (·.compile.root) merged.compile.root
  asPartial : Decides layers (·.compile.asPartial) merged.compile.asPartial
  extension : Decides layers (·.compile.extension) merged.compile.extension
  charset : Decides layers (·.compile.charset) merged.compile.charset
  postParse : Decides layers (·.compile.postParse) merged.compile.postParse
  node : Decides layers (·.engine.node) merged.engine.node
  handlebarsModule : Decides layers (·.engine.handlebarsModule) merged.engine.handlebarsModule
  exclude : merged.compile.exclude = layers.flatMap (·.compile.exclude)

theorem exclude_stack (layers : List Layer) :
    (stack layers).compile.exclude = layers.flatMap (·.compile.exclude) := by
  induction layers using List.reverseRecOn with
  | nil => rfl
  | append_singleton below top ih =>
    rw [stack_concat, List.flatMap_append, ← ih, List.flatMap_singleton]
    rfl

/-- The parts of a stack are what its layers decide, and no other layer has these parts. -/
theorem isStack_iff {layers : List Layer} {merged : Layer} : IsStack layers merged ↔ merged = stack layers := by
  constructor
  · intro h
    have hsame : ∀ {α : Type} {setting : Layer → Option α} {value : Option α}, IsSetting setting →
        Decides layers setting value → value = setting (stack layers) := fun hsetting =>
      (hsetting.decides_iff layers _).mp
    obtain ⟨⟨dest, amd, commonjs, handlebarPath, known, knownOnly, registry, simple, root, asPartial, extension,
      charset, postParse, exclude⟩, ⟨node, handlebarsModule⟩⟩ := merged
    obtain rfl := hsame ⟨rfl, fun _ _ => rfl⟩ h.dest
    obtain rfl := hsame ⟨rfl, fun _ _ => rfl⟩ h.amd
    obtain rfl := hsame ⟨rfl, fun _ _ => rfl⟩ h.commonjs
    obtain rfl := hsame ⟨rfl, fun _ _ => rfl⟩ h.handlebarPath
    obtain rfl := hsame ⟨rfl, fun _ _ => rfl⟩ h.known
    obtain rfl := hsame ⟨rfl, fun _ _ => rfl⟩ h.knownOnly
    obtain rfl := hsame ⟨rfl, fun _ _ => rfl⟩ h.registry
    obtain rfl := hsame ⟨rfl, fun _ _ => rfl⟩ h.simple
    obtain rfl := hsame ⟨rfl, fun _ _ => rfl⟩ h.root
    obtain rfl := hsame ⟨rfl, fun _ _ => rfl⟩ h.asPartial
    obtain rfl := hsame ⟨rfl, fun _ _ => rfl⟩ h.extension
    obtain rfl := hsame ⟨rfl, fun _ _ => rfl⟩ h.charset
    obtain rfl := hsame ⟨rfl, fun _ _ => rfl⟩ h.postParse
    obtain rfl := hsame ⟨rfl, fun _ _ => rfl⟩ h.node
    obtain rfl := hsame ⟨rfl, fun _ _ => rfl⟩ h.handlebarsModule
    obtain rfl : exclude = _ := h.exclude
    rw [← exclude_stack]
  · rintro rfl
    have hset : ∀ {α : Type} {setting : Layer → Option α}, IsSetting setting →
        Decides layers setting (setting (stack layers)) := fun hsetting =>
      (hsetting.decides_iff layers _).mpr rfl
    exact {
      dest := hset ⟨rfl, fun _ _ => rfl⟩
      amd := hset ⟨rfl, fun _ _ => rfl⟩
      commonjs := hset ⟨rfl, fun _ _ => rfl⟩
      handlebarPath := hset ⟨rfl, fun _ _ => rfl⟩
      known := hset ⟨rfl, fun _ _ => rfl⟩
      knownOnly := hset ⟨rfl, fun _ _ => rfl⟩
      registry := hset ⟨rfl, fun _ _ => rfl⟩
      simple := hset ⟨rfl, fun _ _ => rfl⟩
      root := hset ⟨rfl, fun _ _ => rfl⟩
      asPartial := hset ⟨rfl, fun _ _ => rfl⟩
      extension := hset ⟨rfl, fun _ _ => rfl⟩
      charset := hset ⟨rfl, fun _ _ => rfl⟩
      postParse := hset ⟨rfl, fun _ _ => rfl⟩
      node := hset ⟨rfl, fun _ _ => rfl⟩
      handlebarsModule := hset ⟨rfl, fun _ _ => rfl⟩
      exclude := exclude_stack layers }

/-! ### Groups of layers -/

/-- A way to lay some layers over one another, two groups at a time. -/
inductive Grouping where
  | nothing
  | one (layer : Layer)
  | pair (base top : Grouping)

namespace Grouping

/-- The layers of a group, the lowest one first. -/
def layers : Grouping → List Layer
  | nothing => []
  | one layer => [layer]
  | pair base top => base.layers ++ top.layers

/-- What a group amounts to. -/
def merged : Grouping → Layer
  | nothing => empty
  | one layer => layer
  | pair base top => base.merged.merge top.merged

/-- Only the layers of a group count, not how they have been grouped. -/
theorem merged_eq (group : Grouping) : group.merged = stack group.layers := by
  induction group with
  | nothing => rfl
  | one layer => exact (empty_merge layer).symm
  | pair base top ihbase ihtop => rw [merged, layers, stack_append, ihbase, ihtop]

end Grouping

/-- **The last setter wins.** Layers laid over one another in their order amount to the one layer whose settings
are each what the last layer says that says anything about it, and which has the exclude patterns of all of
them. They amount to the same however they are grouped, and the layer that sets nothing is neutral. -/
theorem last_setter_wins :
    (∀ layers merged, layers.foldl merge empty = merged ↔ IsStack layers merged) ∧
    (∀ group : Grouping, group.merged = group.layers.foldl merge empty) ∧
    (∀ base middle top : Layer, (base.merge middle).merge top = base.merge (middle.merge top)) ∧
    ∀ layer : Layer, empty.merge layer = layer ∧ layer.merge empty = layer :=
  ⟨fun _ _ => eq_comm.trans isStack_iff.symm, Grouping.merged_eq, merge_assoc,
    fun layer => ⟨empty_merge layer, merge_empty layer⟩⟩

end Precompiler.Layer
