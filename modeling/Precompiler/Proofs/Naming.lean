import Precompiler.Destination
import Precompiler.Proofs.Files.Reach

/-! Names of templates and of modules.

A list of extensions is refused if it is bars and nothing else (`ofList_eq_error_iff`). A text has an
extension if it ends in a dot and an entry of the list (`endsText_iff`), and what is left of a text
without its extension is how it begins (`stem_isPrefix`). So the name of a module has no separator in it
(`moduleName_bare`), it is where the output path ends unless one file takes all modules
(`outputPath_segments`), and it is the name of no template unless the list says so
(`SparesModules.isMatch_append`). -/
namespace Precompiler

/-! ### Lists of extensions -/

/-- A list has no entry: it is bars and nothing else. -/
def IsBlank (list : String) : Prop := ∀ c ∈ list.toList, c = '|'

instance decidableIsBlank (list : String) : Decidable (IsBlank list) :=
  List.decidableBAll (· = '|') list.toList

theorem splitOn_bar_eq_nil_iff {text : List Char} :
    (text.splitOn '|').filter (· ≠ []) = [] ↔ ∀ c ∈ text, c = '|' := by
  induction text with
  | nil => simp
  | cons c rest ih =>
    rw [List.splitOn_cons_eq_if_modifyHead, List.forall_mem_cons, ← ih]
    by_cases hc : c = '|'
    · simp [hc]
    · cases hsplit : rest.splitOn '|' with
      | nil => exact absurd hsplit (List.splitOn_ne_nil '|' rest)
      | cons first pieces =>
        simp only [beq_iff_eq, hc, if_false, List.modifyHead_cons, false_and, iff_false]
        exact List.cons_ne_nil (c :: first) _

namespace ExtensionPattern

theorem entries_eq_nil_iff {list : String} : entries list = [] ↔ IsBlank list := splitOn_bar_eq_nil_iff

theorem ofList_eq_error_iff {list : String} {failure : Failure} :
    ofList list = .error failure ↔ IsBlank list ∧ failure = .invalidExtension list := by
  rw [ofList, ← entries_eq_nil_iff]
  split
  next hnone => exact ⟨fun h => ⟨hnone, (Except.error.inj h).symm⟩, fun ⟨_, heq⟩ => heq ▸ rfl⟩
  next hsome => exact ⟨fun h => (nomatch h), fun ⟨hnone, _⟩ => absurd hnone hsome⟩

/-! ### Extensions of a text -/

variable {p : ExtensionPattern} {text : List Char}

theorem isDotted_iff : p.isDotted text = true ↔ ∃ e ∈ p.extensions, text = '.' :: e := by
  unfold isDotted
  split
  next rest => simp
  next hdot =>
    simp only [Bool.false_eq_true, false_iff]
    rintro ⟨e, _, rfl⟩
    exact hdot e rfl

/-- A text has an extension if it ends in a dot and an entry of the list. -/
theorem endsText_iff : p.endsText text = true ↔ ∃ e ∈ p.extensions, '.' :: e <:+ text := by
  induction text with
  | nil => simp [endsText]
  | cons c rest ih =>
    rw [endsText, Bool.or_eq_true, isDotted_iff, ih]
    constructor
    · rintro (⟨e, he, heq⟩ | ⟨e, he, hsuffix⟩)
      · exact ⟨e, he, heq ▸ List.suffix_refl _⟩
      · exact ⟨e, he, hsuffix.trans (List.suffix_cons c rest)⟩
    · rintro ⟨e, he, hsuffix⟩
      rcases List.suffix_cons_iff.mp hsuffix with heq | hrest
      · exact .inl ⟨e, he, heq.symm⟩
      · exact .inr ⟨e, he, hrest⟩

theorem stem_isPrefix (p : ExtensionPattern) (text : List Char) : p.stem text <+: text := by
  induction text with
  | nil => exact List.nil_prefix
  | cons c rest ih =>
    rw [stem]
    split
    · exact List.nil_prefix
    · exact List.cons_prefix_cons.mpr ⟨rfl, ih⟩

/-- No entry of the list makes a module a template. -/
def SparesModules (p : ExtensionPattern) : Prop :=
  ∀ e ∈ p.extensions, e ≠ ['j', 's'] ∧ ¬['.', 'j', 's'] <:+ e

/-- Where no entry of the list is `js` or ends in `.js`, no module is named like a template. -/
theorem SparesModules.isMatch_append (h : p.SparesModules) (name : String) :
    p.isMatch (name ++ ".js") = false := by
  rw [isMatch, String.toList_append, Bool.eq_false_iff]
  intro hmatch
  obtain ⟨e, he, hsuffix⟩ := endsText_iff.mp hmatch
  obtain ⟨hjs, hends⟩ := h e he
  have hmodule : ".js".toList <:+ name.toList ++ ".js".toList := List.suffix_append ..
  -- Of two ends of one text the shorter is the end of the longer.
  rcases Nat.le_total ('.' :: e).length ".js".toList.length with hle | hle
  · have hshort := List.suffix_of_suffix_length_le hsuffix hmodule hle
    have hcases : '.' :: e = ['.', 'j', 's'] := by
      simpa [List.suffix_cons_iff] using hshort
    exact hjs (List.cons.inj hcases).2
  · have hlong := List.suffix_of_suffix_length_le hmodule hsuffix hle
    rcases List.suffix_cons_iff.mp hlong with heq | hlong
    · exact hjs (List.cons.inj heq).2.symm
    · exact hends hlong

end ExtensionPattern

namespace Destination

variable {pattern : ExtensionPattern} {input : Path}

theorem moduleName_eq (pattern : ExtensionPattern) (input : Path) :
    moduleName pattern input = pattern.strip (input.fileName?.getD "") ++ ".js" := rfl

/-- Without a value the destination is a directory that is a source, or beside each template. -/
theorem resolve_none (files : Files) (sources : List Path) :
    (∃ source ∈ sources, files.isDirectory source = true ∧
        resolve files none sources = .directory source) ∨
      resolve files none sources = .besideInput := by
  rcases sources with _ | ⟨source, _ | _⟩
  · exact .inr rfl
  · rcases hsource : files.isDirectory source
    · exact .inr (by simp [resolve, hsource])
    · exact .inl ⟨source, by simp, hsource, by simp [resolve, hsource]⟩
  · exact .inr rfl

/-- The name of a module has no separator in it. -/
theorem moduleName_bare (pattern : ExtensionPattern) {directory : Location} {name : String}
    {files : Files} (h : files.Reaches input directory name) :
    '/' ∉ (moduleName pattern input).toList := by
  obtain ⟨front, _, _, hsegments, hstep, _, _⟩ := h
  have hname := (Path.bare_of_segments hsegments).2
  rw [moduleName_eq, Path.fileName?_of_segments hsegments hstep.speaks hstep.notUp, String.toList_append]
  simp only [Option.getD_some, ExtensionPattern.strip, String.toList_ofList, List.mem_append, not_or]
  exact ⟨fun hmem => hname ((pattern.stem_isPrefix name.toList).subset hmem), by decide⟩

/-- An output path ends in the name of the module, unless one file takes all modules. -/
theorem outputPath_segments {destination : Destination} {directory : Location} {name : String}
    {files : Files} {path : Path} (h : files.Reaches input directory name)
    (hfile : ∀ path, destination ≠ .file path)
    (hpath : destination.outputPath pattern input = some path) :
    ∃ front, path.segments = front ++ [moduleName pattern input] := by
  have hbare := moduleName_bare pattern h
  cases destination with
  | directory base =>
    obtain rfl := Option.some.inj hpath
    exact ⟨_, Path.segments_join_name hbare⟩
  | file path => exact absurd rfl (hfile path)
  | besideInput =>
    obtain ⟨front, _, _, hsegments, hstep, _⟩ := h
    rw [← Option.some.inj hpath]
    exact ⟨_, Path.segments_withFileName hsegments hstep.speaks hstep.notUp hbare⟩
  | discard => cases hpath

end Destination

end Precompiler
