import Precompiler.Proofs.Layering
import Precompiler.Proofs.SetUp

/-! Accepted layers.

A layer is checked when it is read and put to use much later, after it has been laid over others. The check
looks at the extension list and then at the charset (`Layer.validate_eq_error_iff`); use looks at the charset,
loads the hook script, and comes to the extension list last (`Layer.putToUse_eq_error_iff`). Both refuse the
same layers for the same reasons, and each setting of a stack is that of one of its layers, so a stack of
accepted layers is accepted, and nothing about it can fail later but its hook script
(`Layer.accepted_layers`). -/
namespace Precompiler

variable {files : Files} {sources : List Path} {failure : Failure} {load : Path → Except Failure Hook}

namespace Layer

variable {layer : Layer} {layers : List Layer}

/-! ### Refusing -/

/-- A layer sets an extension list without an entry, and this is how that fails. -/
def RefusedExtension (layer : Layer) (failure : Failure) : Prop :=
  ∃ list, layer.compile.extension = some list ∧ IsBlank list ∧ failure = .invalidExtension list

/-- A layer sets a charset that is unknown, and this is how that fails. -/
def RefusedCharset (layer : Layer) (failure : Failure) : Prop :=
  ∃ name, layer.compile.charset = some name ∧ Charset.IsUnknown name ∧ failure = .unsupportedCharset name

theorem not_refusedExtension_iff :
    (∀ failure, ¬layer.RefusedExtension failure) ↔ ∀ list ∈ layer.compile.extension, ¬IsBlank list :=
  ⟨fun h list hlist hblank => h _ ⟨list, hlist, hblank, rfl⟩,
    fun h _ ⟨list, hlist, hblank, _⟩ => h list hlist hblank⟩

theorem not_refusedCharset_iff :
    (∀ failure, ¬layer.RefusedCharset failure) ↔ ∀ name ∈ layer.compile.charset, ¬Charset.IsUnknown name :=
  ⟨fun h name hname hunknown => h _ ⟨name, hname, hunknown, rfl⟩,
    fun h _ ⟨name, hname, hunknown, _⟩ => h name hname hunknown⟩

/-- A layer is accepted if it is refused neither for its extension list nor for its charset. -/
theorem validate_eq_ok_iff_not_refused : layer.validate = .ok () ↔
    (∀ failure, ¬layer.RefusedExtension failure) ∧ ∀ failure, ¬layer.RefusedCharset failure := by
  rw [not_refusedExtension_iff, not_refusedCharset_iff, validate_eq_ok_iff]

/-- The check looks at the extension list first. -/
theorem validate_eq_error_iff : layer.validate = .error failure ↔
    layer.RefusedExtension failure ∨
      (∀ other, ¬layer.RefusedExtension other) ∧ layer.RefusedCharset failure := by
  rw [validate_eq, Action.bind_eq_error_iff, exists_and_right, not_refusedExtension_iff]
  refine or_congr ?_ (and_congr ?_ ?_)
  · rw [checked_eq_error_iff]
    simp only [ExtensionPattern.ofList_eq_error_iff, RefusedExtension]
  · simp only [← ExtensionPattern.exists_ofList_iff]
    exact ⟨fun ⟨_, h⟩ => checked_eq_ok_iff.mp h, fun h => ⟨(), checked_eq_ok_iff.mpr h⟩⟩
  · rw [checked_eq_error_iff]
    simp only [Charset.ofName_eq_error_iff, RefusedCharset]

/-! ### Putting to use -/

/-- The charset that a layer amounts to fails if it is refused. -/
theorem charsetOf_eq_error_iff :
    Options.charsetOf layer.compile = .error failure ↔ layer.RefusedCharset failure := by
  unfold Options.charsetOf RefusedCharset
  cases layer.compile.charset with
  | none => simp
  | some name => simp [Charset.ofName_eq_error_iff]

/-- The options of a layer fail with its charset, or else with its hook script. -/
theorem ofSettings_eq_error_iff : Options.ofSettings load layer.compile = .error failure ↔
    layer.RefusedCharset failure ∨ (∀ other, ¬layer.RefusedCharset other) ∧
      ∃ script, layer.compile.postParse = some script ∧ load script = .error failure := by
  rw [Options.ofSettings_eq, Action.bind_eq_error_iff, charsetOf_eq_error_iff]
  simp only [Action.bind_eq_error_iff, Options.hookOf_eq_error_iff, pure, Except.pure, reduceCtorEq, and_false,
    exists_false, or_false, exists_and_right]
  refine or_congr Iff.rfl (and_congr_left fun _ => ?_)
  rw [Action.exists_eq_ok_iff]
  exact forall_congr' fun other => not_congr charsetOf_eq_error_iff

/-- A batch cannot be set up with the options of a layer if its extension list is refused. The standard list
never is. -/
theorem setup_eq_error_iff {options : Options} (h : Options.ofSettings load layer.compile = .ok options) :
    Setup.of options files sources = .error failure ↔ layer.RefusedExtension failure := by
  have hlist : options.extension = layer.compile.extension.getD Options.standard.extension := by
    obtain ⟨_, _, hplain⟩ := Options.ofSettings_ok h
    rw [hplain]
    rfl
  rw [Setup.of_eq_error_iff, hlist, RefusedExtension]
  cases layer.compile.extension with
  | none =>
    have hstandard : ¬IsBlank Options.standard.extension := by decide
    simp [hstandard]
  | some list => simp

/-- What a layer is checked for: its options, and a batch set up with them. -/
def putToUse (load : Path → Except Failure Hook) (files : Files) (sources : List Path) (layer : Layer) :
    Except Failure Setup := do
  let options ← Options.ofSettings load layer.compile
  Setup.of options files sources

/-- Use looks at the extension list last. -/
theorem putToUse_eq_error_iff : layer.putToUse load files sources = .error failure ↔
    Options.ofSettings load layer.compile = .error failure ∨
      (∃ options, Options.ofSettings load layer.compile = .ok options) ∧ layer.RefusedExtension failure := by
  rw [putToUse, Action.bind_eq_error_iff, ← exists_and_right]
  exact or_congr Iff.rfl (exists_congr fun options => and_congr_right setup_eq_error_iff)

/-- Without a hook script only what the check looks at can fail. -/
theorem putToUse_of_no_hook (h : layer.compile.postParse = none) :
    layer.putToUse load files sources = .error failure ↔ layer.RefusedCharset failure ∨
      (∀ other, ¬layer.RefusedCharset other) ∧ layer.RefusedExtension failure := by
  have hsettings : ∀ other, Options.ofSettings load layer.compile = .error other ↔ layer.RefusedCharset other := by
    intro other
    rw [ofSettings_eq_error_iff, h]
    simp
  rw [putToUse_eq_error_iff, Action.exists_eq_ok_iff, hsettings]
  simp only [ne_eq, hsettings]

/-! ### Stacks -/

/-- What a stack sets, one of its layers sets. -/
theorem IsSetting.exists_of_stack {α : Type} {setting : Layer → Option α} (h : IsSetting setting) {own : α}
    (hset : setting (stack layers) = some own) : ∃ layer ∈ layers, setting layer = some own := by
  have hdecides : Decides layers setting (some own) := (h.decides_iff layers _).mpr hset.symm
  cases hdecides with
  | set heq hown _ => exact ⟨_, heq ▸ List.mem_append_right _ List.mem_cons_self, hown⟩

/-- A stack of accepted layers is accepted, however their settings mix in it. -/
theorem validate_stack (h : ∀ layer ∈ layers, layer.validate = .ok ()) : (stack layers).validate = .ok () := by
  have hextension : IsSetting (·.compile.extension) := ⟨rfl, fun _ _ => rfl⟩
  have hcharset : IsSetting (·.compile.charset) := ⟨rfl, fun _ _ => rfl⟩
  refine validate_eq_ok_iff.mpr ⟨fun list hlist => ?_, fun name hname => ?_⟩
  · obtain ⟨layer, hlayer, hown⟩ := hextension.exists_of_stack hlist
    exact (validate_eq_ok_iff.mp (h layer hlayer)).1 list hown
  · obtain ⟨layer, hlayer, hown⟩ := hcharset.exists_of_stack hname
    exact (validate_eq_ok_iff.mp (h layer hlayer)).2 name hown

/-- **What is accepted cannot fail later.** A stack of accepted layers is accepted, its options can fail only in
loading the hook script, and with these options a batch can always be set up. A layer without a hook script is
accepted if and only if it can be put to use. If only one of its charset and its extension list is bad, the
check and the use fail alike; if both are, the check reports the extension list and the use the charset. -/
theorem accepted_layers :
    (∀ layers : List Layer, (∀ layer ∈ layers, layer.validate = .ok ()) →
      (stack layers).validate = .ok () ∧ ∀ load : Path → Except Failure Hook,
        (∀ failure, Options.ofSettings load (stack layers).compile = .error failure ↔
          ∃ script, (stack layers).compile.postParse = some script ∧ load script = .error failure) ∧
        ∀ options, Options.ofSettings load (stack layers).compile = .ok options →
          ∀ files sources, ∃ setup, Setup.of options files sources = .ok setup) ∧
    ∀ layer : Layer, layer.compile.postParse = none → ∀ load files sources,
      (layer.validate = .ok () ↔ ∃ setup, layer.putToUse load files sources = .ok setup) ∧
      (∀ failure, layer.RefusedCharset failure → (∀ other, ¬layer.RefusedExtension other) →
        layer.validate = .error failure ∧ layer.putToUse load files sources = .error failure) ∧
      (∀ failure, layer.RefusedExtension failure → (∀ other, ¬layer.RefusedCharset other) →
        layer.validate = .error failure ∧ layer.putToUse load files sources = .error failure) ∧
      ∀ first second, layer.RefusedExtension first → layer.RefusedCharset second →
        layer.validate = .error first ∧ layer.putToUse load files sources = .error second := by
  refine ⟨fun layers hlayers => ?_, fun layer hhook load files sources => ?_⟩
  · have hstack : (stack layers).validate = .ok () := validate_stack hlayers
    obtain ⟨hextension, hcharset⟩ := validate_eq_ok_iff_not_refused.mp hstack
    refine ⟨hstack, fun load => ⟨fun failure => ?_, fun options hoptions files sources => ?_⟩⟩
    · rw [ofSettings_eq_error_iff, or_iff_right (hcharset failure), and_iff_right hcharset]
    · exact Action.exists_eq_ok_iff.mpr fun failure hfails =>
        hextension failure ((setup_eq_error_iff hoptions).mp hfails)
  · have huse : ∀ failure, layer.putToUse load files sources = .error failure ↔ layer.RefusedCharset failure ∨
        (∀ other, ¬layer.RefusedCharset other) ∧ layer.RefusedExtension failure := fun failure =>
      putToUse_of_no_hook hhook
    refine ⟨?_, fun failure hbad hgood => ?_, fun failure hbad hgood => ?_, fun first second hfirst hsecond => ?_⟩
    · rw [validate_eq_ok_iff_not_refused, Action.exists_eq_ok_iff]
      simp only [ne_eq, huse, not_or, not_and]
      constructor
      · rintro ⟨hextension, hcharset⟩ failure
        exact ⟨hcharset failure, fun _ => hextension failure⟩
      · intro h
        have hcharset : ∀ failure, ¬layer.RefusedCharset failure := fun failure => (h failure).1
        exact ⟨fun failure => (h failure).2 hcharset, hcharset⟩
    · exact ⟨validate_eq_error_iff.mpr (.inr ⟨hgood, hbad⟩), (huse failure).mpr (.inl hbad)⟩
    · exact ⟨validate_eq_error_iff.mpr (.inl hbad), (huse failure).mpr (.inr ⟨hgood, hbad⟩)⟩
    · exact ⟨validate_eq_error_iff.mpr (.inl hfirst), (huse second).mpr (.inl hsecond)⟩

end Layer

namespace Sample

/-- A layer that sets an extension list. -/
def extensionLayer (list : String) : Layer := ⟨{CompileSettings.empty with extension := some list}, .empty⟩

/-- A layer that sets a charset. -/
def charsetLayer (name : String) : Layer := ⟨{CompileSettings.empty with charset := some name}, .empty⟩

end Sample

theorem Sample.isUnknown_ascii : Charset.IsUnknown "ascii" := by
  have hfails : Charset.ofName "ascii" = .error (.unsupportedCharset "ascii") := by decide +kernel
  exact (Charset.ofName_eq_error_iff.mp hfails).1

/-- A list with blank entries and a charset in capitals are accepted, and together, too. A list of bars is refused
by the check as in use, and so is an unknown charset; for a layer with both they differ. -/
theorem Layer.accepted_layers_mixed :
    ((stack [Sample.extensionLayer "|tpl||", Sample.charsetLayer "LATIN1"]).validate = .ok () ∧
      ∀ load, ∃ options setup, Options.ofSettings load
          (stack [Sample.extensionLayer "|tpl||", Sample.charsetLayer "LATIN1"]).compile = .ok options ∧
        options.charset = .latin1 ∧ Setup.of options (Sample.files []) ["a.tpl"] = .ok setup) ∧
    ∀ load,
      ((Sample.extensionLayer "||").validate = .error (.invalidExtension "||") ∧
        (Sample.extensionLayer "||").putToUse load (Sample.files []) ["a.tpl"] =
          .error (.invalidExtension "||")) ∧
      ((Sample.charsetLayer "ascii").validate = .error (.unsupportedCharset "ascii") ∧
        (Sample.charsetLayer "ascii").putToUse load (Sample.files []) ["a.tpl"] =
          .error (.unsupportedCharset "ascii")) ∧
      ((stack [Sample.extensionLayer "||", Sample.charsetLayer "ascii"]).validate =
          .error (.invalidExtension "||") ∧
        (stack [Sample.extensionLayer "||", Sample.charsetLayer "ascii"]).putToUse load (Sample.files []) ["a.tpl"] =
          .error (.unsupportedCharset "ascii")) := by
  obtain ⟨hstacks, hsingle⟩ := accepted_layers
  have hblank : IsBlank "||" := by decide
  refine ⟨?_, fun load => ⟨?_, ?_, ?_⟩⟩
  · have hlayers : ∀ layer ∈ [Sample.extensionLayer "|tpl||", Sample.charsetLayer "LATIN1"],
        layer.validate = .ok () := by decide +kernel
    obtain ⟨hvalid, huse⟩ := hstacks _ hlayers
    refine ⟨hvalid, fun load => ?_⟩
    obtain ⟨hfails, hsetup⟩ := huse load
    obtain ⟨options, hoptions⟩ := Action.exists_eq_ok_iff.mpr fun failure hfailed => by
      obtain ⟨_, hnone, _⟩ := (hfails failure).mp hfailed
      cases hnone
    obtain ⟨setup, hsetup⟩ := hsetup options hoptions (Sample.files []) ["a.tpl"]
    have hcharset : Options.charsetOf (stack [Sample.extensionLayer "|tpl||", Sample.charsetLayer "LATIN1"]).compile =
        .ok .latin1 := by decide +kernel
    refine ⟨options, setup, hoptions, ?_, hsetup⟩
    exact Except.ok.inj ((Options.ofSettings_ok hoptions).1.symm.trans hcharset)
  · obtain ⟨_, _, hextension, _⟩ := hsingle (Sample.extensionLayer "||") rfl load (Sample.files []) ["a.tpl"]
    refine hextension _ ⟨"||", rfl, hblank, rfl⟩ (not_refusedCharset_iff.mpr ?_)
    simp [Sample.extensionLayer, CompileSettings.empty]
  · obtain ⟨_, hcharset, _⟩ := hsingle (Sample.charsetLayer "ascii") rfl load (Sample.files []) ["a.tpl"]
    refine hcharset _ ⟨"ascii", rfl, Sample.isUnknown_ascii, rfl⟩ (not_refusedExtension_iff.mpr ?_)
    simp [Sample.charsetLayer, CompileSettings.empty]
  · obtain ⟨_, _, _, hboth⟩ := hsingle (stack [Sample.extensionLayer "||", Sample.charsetLayer "ascii"]) rfl load
      (Sample.files []) ["a.tpl"]
    exact hboth _ _ ⟨"||", rfl, hblank, rfl⟩ ⟨"ascii", rfl, Sample.isUnknown_ascii, rfl⟩

end Precompiler
