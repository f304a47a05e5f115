import Precompiler.Wrapper

/-! What a module shows.

Nothing in a module is escaped, and its payload may be any text, a closer or another registration
included. All the same a module can be taken apart: its first character tells its style, what a style
puts in ends at a quote or a line end that is not in it (`preamble_append_inj`), so does the name
(`registration_append_inj`), and what is left in front of the closer is the payload (`closer_inj`).
What does not show has no bearing on a module (`assemble_congr`). So two modules are equal exactly if
what shows in them is (`assemble_eq_iff`). -/
namespace Precompiler

/-! ### What shows -/

namespace InputFacts

/-- What was given as input, as far as a module can tell. -/
inductive Shape where
  | single
  | bulk
  | neither
  deriving Repr, DecidableEq

def shape (facts : InputFacts) : Shape :=
  if facts.isSingleFile then .single else if facts.isBulk then .bulk else .neither

theorem shape_eq_iff {facts₁ facts₂ : InputFacts} : facts₁.shape = facts₂.shape ↔
    facts₁.isSingleFile = facts₂.isSingleFile ∧ facts₁.isBulk = facts₂.isBulk := by
  have h₁ := facts₁.not_single_and_bulk
  have h₂ := facts₂.not_single_and_bulk
  unfold shape
  generalize facts₁.isSingleFile = single₁, facts₁.isBulk = bulk₁ at *
  generalize facts₂.isSingleFile = single₂, facts₂.isBulk = bulk₂ at *
  revert single₁ bulk₁ single₂ bulk₂
  decide

end InputFacts

namespace WrapperStyle

/-- Whether a style makes the registry known inside its modules. -/
def binds : WrapperStyle → Bool
  | simple | commonJs _ => false
  | amd _ | immediate => true

def isAmd : WrapperStyle → Bool
  | amd _ => true
  | _ => false

theorem isAmd_iff {style : WrapperStyle} :
    style.isAmd = true ↔ ∃ handlebarPath, style = amd handlebarPath := by
  cases style <;> simp [isAmd]

/-- What a style puts in does not hold the quote that ends it. -/
def IsPlain : WrapperStyle → Prop
  | simple | immediate => True
  | amd handlebarPath => '\'' ∉ handlebarPath.toList
  | commonJs moduleName => '"' ∉ moduleName.toList

end WrapperStyle

/-- A name and options that hold no character that ends them in a module. -/
structure IsPlain (name : String) (options : Options) : Prop where
  name : '\'' ∉ name.toList
  handlebarPath : '\'' ∉ options.handlebarPath.toList
  commonjs : ∀ moduleName ∈ options.commonjs, '"' ∉ moduleName.toList
  registry : '\n' ∉ options.registry.toList

/-! ### Taking a module apart -/

/-- Texts are told apart by a character after them that they do not hold, whatever follows it. -/
theorem append_cons_inj {d : Char} {xs ys s t : List Char} (hxs : d ∉ xs) (hys : d ∉ ys)
    (h : xs ++ d :: s = ys ++ d :: t) : xs = ys ∧ s = t := by
  induction xs generalizing ys with
  | nil =>
    cases ys with
    | nil => exact ⟨rfl, (List.cons.inj h).2⟩
    | cons y ys => exact absurd (List.cons.inj h).1 fun heq => hys (heq ▸ List.mem_cons_self ..)
  | cons x xs ih =>
    cases ys with
    | nil => exact absurd (List.cons.inj h).1 fun heq => hxs (heq ▸ List.mem_cons_self ..)
    | cons y ys =>
      obtain ⟨rfl, hrest⟩ := List.cons.inj h
      obtain ⟨rfl, rfl⟩ := ih (List.not_mem_of_not_mem_cons hxs) (List.not_mem_of_not_mem_cons hys) hrest
      exact ⟨rfl, rfl⟩

namespace WrapperStyle

variable {style₁ style₂ : WrapperStyle} {registry₁ registry₂ : String} {s t : List Char}

theorem toList_binding_append (registry : String) (s : List Char) :
    (binding registry).toList ++ s = "  var template = Handlebars.template, templates = ".toList ++
      ((registry.toList ++ (" = ".toList ++ (registry.toList ++ " || \x7b\x7d;".toList))) ++ '\n' :: s) := by
  unfold binding
  simp

/-- The line of a registry tells it: it holds the registry twice, and its length tells how long that is. -/
theorem binding_append_inj (h₁ : '\n' ∉ registry₁.toList) (h₂ : '\n' ∉ registry₂.toList)
    (h : (binding registry₁).toList ++ s = (binding registry₂).toList ++ t) :
    registry₁ = registry₂ ∧ s = t := by
  have hline : ∀ {registry : String}, '\n' ∉ registry.toList → '\n' ∉
      registry.toList ++ (" = ".toList ++ (registry.toList ++ " || \x7b\x7d;".toList)) := by
    intro registry hregistry
    simp [hregistry]
  simp only [toList_binding_append] at h
  obtain ⟨hlines, hrest⟩ := append_cons_inj (hline h₁) (hline h₂) (List.append_cancel_left h)
  have hlengths := congrArg List.length hlines
  simp only [List.length_append] at hlengths
  exact ⟨String.toList_inj.mp (List.append_inj hlines (by omega)).1, hrest⟩

theorem toList_preamble_amd (registry handlebarPath : String) (s : List Char) :
    (preamble registry (amd handlebarPath)).toList ++ s = "define(['".toList ++
      ((handlebarPath.toList ++ "handlebars".toList) ++
        '\'' :: ("], function(Handlebars) \x7b\n".toList ++ ((binding registry).toList ++ s))) := by
  unfold preamble
  simp

theorem toList_preamble_commonJs (registry moduleName : String) (s : List Char) :
    (preamble registry (commonJs moduleName)).toList ++ s =
      "var Handlebars = require(\"".toList ++ (moduleName.toList ++ '"' :: (");".toList ++ s)) := by
  unfold preamble
  simp

theorem toList_preamble_immediate (registry : String) (s : List Char) :
    (preamble registry immediate).toList ++ s =
      "(function() \x7b\n".toList ++ ((binding registry).toList ++ s) := by
  unfold preamble
  simp

/-- The beginning of a module tells its style, what the style puts in, and the registry that it binds. -/
theorem preamble_append_inj (hstyle₁ : style₁ ≠ simple) (hstyle₂ : style₂ ≠ simple)
    (hplain₁ : style₁.IsPlain) (hplain₂ : style₂.IsPlain)
    (h₁ : '\n' ∉ registry₁.toList) (h₂ : '\n' ∉ registry₂.toList)
    (h : (preamble registry₁ style₁).toList ++ s = (preamble registry₂ style₂).toList ++ t) :
    style₁ = style₂ ∧ (style₁.binds = true → registry₁ = registry₂) ∧ s = t := by
  cases style₁ with
  | simple => exact absurd rfl hstyle₁
  | amd path₁ =>
    rw [toList_preamble_amd] at h
    cases style₂ with
    | simple => exact absurd rfl hstyle₂
    | amd path₂ =>
      rw [toList_preamble_amd] at h
      have hpath : ∀ {path : String}, '\'' ∉ path.toList → '\'' ∉ path.toList ++ "handlebars".toList := by
        intro path hpath
        simp [hpath]
      obtain ⟨hpaths, h⟩ := append_cons_inj (hpath hplain₁) (hpath hplain₂) (List.append_cancel_left h)
      obtain ⟨rfl, rfl⟩ := binding_append_inj h₁ h₂ (List.append_cancel_left h)
      obtain rfl := String.toList_inj.mp (List.append_cancel_right hpaths)
      exact ⟨rfl, fun _ => rfl, rfl⟩
    | commonJs _ => simp [toList_preamble_commonJs] at h
    | immediate => simp [toList_preamble_immediate] at h
  | commonJs module₁ =>
    rw [toList_preamble_commonJs] at h
    cases style₂ with
    | simple => exact absurd rfl hstyle₂
    | amd _ => simp [toList_preamble_amd] at h
    | commonJs module₂ =>
      rw [toList_preamble_commonJs] at h
      obtain ⟨hmodules, hrest⟩ := append_cons_inj hplain₁ hplain₂ (List.append_cancel_left h)
      obtain rfl := String.toList_inj.mp hmodules
      exact ⟨rfl, nofun, List.append_cancel_left hrest⟩
    | immediate => simp [toList_preamble_immediate] at h
  | immediate =>
    rw [toList_preamble_immediate] at h
    cases style₂ with
    | simple => exact absurd rfl hstyle₂
    | amd _ => simp [toList_preamble_amd] at h
    | commonJs _ => simp [toList_preamble_commonJs] at h
    | immediate =>
      rw [toList_preamble_immediate] at h
      obtain ⟨rfl, rfl⟩ := binding_append_inj h₁ h₂ (List.append_cancel_left h)
      exact ⟨rfl, fun _ => rfl, rfl⟩

end WrapperStyle

variable {name₁ name₂ payload₁ payload₂ : String} {asPartial returns₁ returns₂ : Bool} {s t : List Char}

/-- What comes before the bracket in a registration. -/
def registrationHead (asPartial returns : Bool) : String :=
  (if returns then "return " else "") ++ WrapperStyle.registryOf asPartial

theorem registrationHead_plain : ∀ asPartial returns, '[' ∉ (registrationHead asPartial returns).toList := by
  decide

theorem registrationHead_inj : ∀ asPartial₁ returns₁ asPartial₂ returns₂,
    (registrationHead asPartial₁ returns₁).toList = (registrationHead asPartial₂ returns₂).toList →
      asPartial₁ = asPartial₂ ∧ returns₁ = returns₂ := by
  decide

theorem toList_registration (name payload : String) (asPartial returns : Bool) (s : List Char) :
    (registration name payload asPartial returns).toList ++ s = (registrationHead asPartial returns).toList ++
      '[' :: ("'".toList ++ (name.toList ++ '\'' :: ("] = template(".toList ++
        (payload.toList ++ (");\n".toList ++ s))))) := by
  unfold registration registrationHead
  simp

/-- Up to its payload, a registration tells everything that went into it. -/
theorem registration_append_inj {asPartial₁ asPartial₂ : Bool} (h₁ : '\'' ∉ name₁.toList)
    (h₂ : '\'' ∉ name₂.toList)
    (h : (registration name₁ payload₁ asPartial₁ returns₁).toList ++ s =
      (registration name₂ payload₂ asPartial₂ returns₂).toList ++ t) :
    asPartial₁ = asPartial₂ ∧ returns₁ = returns₂ ∧ name₁ = name₂ ∧
      payload₁.toList ++ (");\n".toList ++ s) = payload₂.toList ++ (");\n".toList ++ t) := by
  simp only [toList_registration] at h
  obtain ⟨hheads, h⟩ := append_cons_inj (registrationHead_plain _ _) (registrationHead_plain _ _) h
  obtain ⟨hnames, h⟩ := append_cons_inj h₁ h₂ (List.append_cancel_left h)
  obtain ⟨hpartials, hreturns⟩ := registrationHead_inj _ _ _ _ hheads
  exact ⟨hpartials, hreturns, String.toList_inj.mp hnames, List.append_cancel_left h⟩

namespace WrapperStyle

/-- The last line of an AMD definition comes after a `return` for bulk input, and after a registration
otherwise. -/
theorem returned_ne (asPartial : Bool) {facts₁ facts₂ : InputFacts} {handlebarPath : String} {xs ys : List Char}
    (h₁ : facts₁.isBulk = true) (h₂ : facts₂.isBulk = false) :
    xs ++ (");\n".toList ++ (closer asPartial facts₁ (amd handlebarPath)).toList) ≠
      ys ++ (");\n".toList ++ (closer asPartial facts₂ (amd handlebarPath)).toList) := by
  intro h
  -- Read from its end, the first has the last letter of an object where the second has a parenthesis.
  have hreverse := congrArg List.reverse h
  unfold closer at hreverse
  cases asPartial <;> simp [h₁, h₂, registryOf] at hreverse

/-- The closer has regard to the input in the AMD style alone. -/
theorem closer_congr {facts₁ facts₂ : InputFacts} {style : WrapperStyle}
    (h : style.isAmd = true → facts₁.isBulk = facts₂.isBulk) :
    closer asPartial facts₁ style = closer asPartial facts₂ style := by
  cases style with
  | amd handlebarPath => simp only [closer, h rfl]
  | simple | commonJs moduleName | immediate => rfl

/-- What is left in front of the closer is the payload. -/
theorem closer_inj {facts₁ facts₂ : InputFacts} {style : WrapperStyle}
    (h : payload₁.toList ++ (");\n".toList ++ (closer asPartial facts₁ style).toList) =
      payload₂.toList ++ (");\n".toList ++ (closer asPartial facts₂ style).toList)) :
    payload₁ = payload₂ ∧ (style.isAmd = true → facts₁.isBulk = facts₂.isBulk) := by
  have hbulk : style.isAmd = true → facts₁.isBulk = facts₂.isBulk := by
    intro hamd
    obtain ⟨handlebarPath, rfl⟩ := isAmd_iff.mp hamd
    cases h₁ : facts₁.isBulk <;> cases h₂ : facts₂.isBulk
    · rfl
    · exact absurd h.symm (returned_ne asPartial h₂ h₁)
    · exact absurd h (returned_ne asPartial h₁ h₂)
    · rfl
  rw [closer_congr hbulk] at h
  exact ⟨String.toList_inj.mp (List.append_cancel_right h), hbulk⟩

end WrapperStyle

/-! ### The whole module -/

variable {options options₁ options₂ : Options} {facts₁ facts₂ : InputFacts}

open WrapperStyle (ofOptions)

theorem ofOptions_ne_simple (h : options.simple = false) : ofOptions options ≠ .simple := by
  unfold ofOptions
  rw [h]
  split
  · contradiction
  · split
    · nofun
    · split <;> nofun

/-- A module for CommonJS binds no registry. -/
theorem not_binds_of_commonjs (hamd : options.amd = false) (hmodule : options.commonjsModule.isSome = true) :
    (ofOptions options).binds = false := by
  obtain ⟨moduleName, hmodule⟩ := Option.isSome_iff_exists.mp hmodule
  unfold ofOptions
  rw [hamd, hmodule]
  cases options.simple <;> rfl

theorem assemble_of_ne_simple (name payload : String) (facts : InputFacts)
    (h : ofOptions options ≠ .simple) :
    assemble name payload options facts = (ofOptions options).preamble options.registry ++
      registration name payload options.asPartial ((ofOptions options).returnsTemplate facts) ++
      (ofOptions options).closer options.asPartial facts := by
  unfold assemble
  generalize ofOptions options = style at h
  cases style with
  | simple => exact absurd rfl h
  | amd handlebarPath | commonJs moduleName | immediate => rfl

theorem IsPlain.style {name : String} (h : IsPlain name options) : (ofOptions options).IsPlain := by
  unfold ofOptions
  split
  · trivial
  · split
    · exact h.handlebarPath
    · split
      next moduleName hmodule => exact h.commonjs moduleName (Option.mem_filter_iff.mp hmodule).1
      next => trivial

/-- What does not show in a module has no bearing on it. -/
theorem assemble_congr {name payload : String} (hstyle : ofOptions options₁ = ofOptions options₂)
    (hpartial : options₁.asPartial = options₂.asPartial)
    (hregistry : (ofOptions options₁).binds = true → options₁.registry = options₂.registry)
    (hshape : (ofOptions options₁).isAmd = true → facts₁.shape = facts₂.shape) :
    assemble name payload options₁ facts₁ = assemble name payload options₂ facts₂ := by
  unfold assemble
  rw [← hstyle, ← hpartial]
  generalize ofOptions options₁ = style at *
  cases style with
  | simple | commonJs moduleName => rfl
  | immediate => rw [hregistry rfl]; rfl
  | amd handlebarPath =>
    obtain ⟨hsingle, hbulk⟩ := InputFacts.shape_eq_iff.mp (hshape rfl)
    simp only [hregistry rfl, WrapperStyle.returnsTemplate, hsingle, WrapperStyle.closer, hbulk]

/-- A module tells everything that shows in it. -/
theorem assemble_inj (hstyle₁ : ofOptions options₁ ≠ .simple) (hstyle₂ : ofOptions options₂ ≠ .simple)
    (hplain₁ : IsPlain name₁ options₁) (hplain₂ : IsPlain name₂ options₂)
    (h : assemble name₁ payload₁ options₁ facts₁ = assemble name₂ payload₂ options₂ facts₂) :
    ofOptions options₁ = ofOptions options₂ ∧ options₁.asPartial = options₂.asPartial ∧
      name₁ = name₂ ∧ payload₁ = payload₂ ∧
      ((ofOptions options₁).binds = true → options₁.registry = options₂.registry) ∧
      ((ofOptions options₁).isAmd = true → facts₁.shape = facts₂.shape) := by
  rw [assemble_of_ne_simple _ _ _ hstyle₁, assemble_of_ne_simple _ _ _ hstyle₂,
    ← String.toList_inj] at h
  simp only [String.toList_append, List.append_assoc] at h
  obtain ⟨hstyle, hregistry, hbody⟩ := WrapperStyle.preamble_append_inj hstyle₁ hstyle₂
    hplain₁.style hplain₂.style hplain₁.registry hplain₂.registry h
  obtain ⟨hpartial, hreturns, hname, hend⟩ :=
    registration_append_inj hplain₁.name hplain₂.name hbody
  rw [← hstyle] at hreturns
  rw [← hpartial, ← hstyle] at hend
  obtain ⟨hpayload, hbulk⟩ := WrapperStyle.closer_inj hend
  refine ⟨hstyle, hpartial, hname, hpayload, hregistry, fun hamd => ?_⟩
  obtain ⟨handlebarPath, hpath⟩ := WrapperStyle.isAmd_iff.mp hamd
  rw [hpath] at hreturns
  exact InputFacts.shape_eq_iff.mpr ⟨hreturns, hbulk hamd⟩

/-- **A module determines what was compiled, and nothing else has a bearing on it.** Of plain names
and options, with bare payloads aside, two modules are equal exactly if they have the same style, with
its path or module, the same partial flag, name and payload, the same registry if the style binds it,
and for AMD the same shape of the input. In particular no module depends on a root, a list of extensions,
known helpers, a charset or a hook, nor on the options of a style that is not chosen. -/
theorem assemble_eq_iff (h₁ : options₁.simple = false) (h₂ : options₂.simple = false)
    (hplain₁ : IsPlain name₁ options₁) (hplain₂ : IsPlain name₂ options₂) :
    (assemble name₁ payload₁ options₁ facts₁ = assemble name₂ payload₂ options₂ facts₂ ↔
      ofOptions options₁ = ofOptions options₂ ∧ options₁.asPartial = options₂.asPartial ∧
        name₁ = name₂ ∧ payload₁ = payload₂ ∧
        ((ofOptions options₁).binds = true → options₁.registry = options₂.registry) ∧
        ((ofOptions options₁).isAmd = true → facts₁.shape = facts₂.shape)) ∧
    ∀ (name payload : String) (options : Options) (facts : InputFacts),
      (∀ root extension known knownOnly charset postParse,
        assemble name payload {options with root, extension, known, knownOnly, charset, postParse} facts =
          assemble name payload options facts) ∧
      (options.amd = true → ∀ commonjs,
        assemble name payload {options with commonjs} facts = assemble name payload options facts) ∧
      (options.amd = false → ∀ handlebarPath,
        assemble name payload {options with handlebarPath} facts = assemble name payload options facts) ∧
      (options.amd = false → options.commonjsModule.isSome = true → ∀ registry,
        assemble name payload {options with registry} facts = assemble name payload options facts) := by
  refine ⟨⟨assemble_inj (ofOptions_ne_simple h₁) (ofOptions_ne_simple h₂) hplain₁ hplain₂, ?_⟩,
    fun name payload options facts => ⟨?_, ?_, ?_, ?_⟩⟩
  · rintro ⟨hstyle, hpartial, rfl, rfl, hregistry, hshape⟩
    exact assemble_congr hstyle hpartial hregistry hshape
  · intro root extension known knownOnly charset postParse
    exact assemble_congr rfl rfl (fun _ => rfl) (fun _ => rfl)
  · intro hamd commonjs
    refine assemble_congr ?_ rfl (fun _ => rfl) (fun _ => rfl)
    simp only [ofOptions, hamd, if_true]
  · intro hamd handlebarPath
    refine assemble_congr ?_ rfl (fun _ => rfl) (fun _ => rfl)
    simp only [ofOptions, hamd, Bool.false_eq_true, if_false, Options.commonjsModule]
  · intro hamd hmodule registry
    refine assemble_congr rfl rfl (fun hbinds => ?_) (fun _ => rfl)
    exact absurd ((not_binds_of_commonjs hamd hmodule).symm.trans hbinds) (by decide)

/-- An AMD module for two files is not one for none, whatever its payload looks like; and a directory
in place of the files makes the same module. -/
theorem assemble_amd_pair :
    IsPlain "a" {Options.standard with amd := true} ∧
      assemble "a" "P" {Options.standard with amd := true} ⟨2, false⟩ ≠
        assemble "a" "P);\nreturn templates" {Options.standard with amd := true} ⟨0, false⟩ ∧
      assemble "a" "P" {Options.standard with amd := true} ⟨2, false⟩ =
        assemble "a" "P" {Options.standard with amd := true, commonjs := some "m"} ⟨1, true⟩ := by
  have hplain : IsPlain "a" {Options.standard with amd := true} := ⟨by decide, by decide, nofun, by decide⟩
  have hmodule : IsPlain "a" {Options.standard with amd := true, commonjs := some "m"} :=
    ⟨by decide, by decide, by decide, by decide⟩
  refine ⟨hplain, fun h => ?_, (assemble_eq_iff rfl rfl hplain hmodule).1.mpr ?_⟩
  · obtain ⟨_, _, _, hpayload, _, _⟩ := (assemble_eq_iff rfl rfl hplain hplain).1.mp h
    exact absurd hpayload (by decide)
  · exact ⟨rfl, rfl, rfl, rfl, fun _ => rfl, fun _ => rfl⟩

end Precompiler
