import Precompiler.Proofs.RootedNames

/-! Extensions as the longest suffix.

A pattern is a search: its entries, each after a dot and taken letter for letter, are tried at one place
of a name after another, and one that reaches the end of the name is a match (`leftmost`). Who uses a
pattern has a simpler rule in mind, in which neither the order of the entries nor a search occurs: the
longest of the suffixes comes off. The two are one, since the suffix that begins first is the longest
(`stem_eq_take`, `stem_append_extension`). So of the list only the set of its entries counts
(`extension_longest`). -/
namespace Precompiler

/-! ### Searching for an ending -/

/-- A search for alternatives that end a text: it gives the first place from which one of them, letter
for letter, is all that follows. -/
structure IsSearch (alternatives : List (List Char)) (find : List Char → Option Nat) : Prop where
  literal : ∀ {text start}, find text = some start → start ≤ text.length ∧ text.drop start ∈ alternatives
  leftmost : ∀ {text start}, find text = some start → ∀ earlier < start, text.drop earlier ∉ alternatives
  complete : ∀ {text}, find text = none → ∀ start ≤ text.length, text.drop start ∉ alternatives

/-- The first of the alternatives that is the whole text. -/
def firstWhole (alternatives : List (List Char)) (text : List Char) : Option (List Char) :=
  alternatives.find? fun alternative => dropLeading alternative text = some []

/-- The first place of a text at which one of the alternatives, tried in their order, reaches its end. -/
def leftmost (alternatives : List (List Char)) (text : List Char) : Option Nat :=
  (List.range (text.length + 1)).find? fun start => (firstWhole alternatives (text.drop start)).isSome

theorem dropLeading_eq_some_iff {lead text rest : List Char} :
    dropLeading lead text = some rest ↔ text = lead ++ rest := by
  fun_induction dropLeading lead text with
  | case1 => simp [eq_comm]
  | case2 => simp
  | case3 lead d text ih => simpa using ih
  | case4 c lead d text hne => simpa using fun h => absurd h.symm hne

theorem isSome_firstWhole {alternatives : List (List Char)} {text : List Char} :
    (firstWhole alternatives text).isSome = true ↔ text ∈ alternatives := by
  simp [firstWhole, dropLeading_eq_some_iff]

/-- Trying the alternatives at one place after another is such a search. -/
theorem leftmost_isSearch (alternatives : List (List Char)) :
    IsSearch alternatives (leftmost alternatives) where
  literal {text start} h := by
    obtain ⟨hmatch, hrange, _⟩ := List.find?_range_eq_some.mp h
    exact ⟨Nat.le_of_lt_succ (List.mem_range.mp hrange), isSome_firstWhole.mp hmatch⟩
  leftmost {text start} h earlier hlt := by
    obtain ⟨_, _, hnone⟩ := List.find?_range_eq_some.mp h
    have hearlier := hnone earlier hlt
    rwa [Bool.not_eq_true', Bool.eq_false_iff, Ne, isSome_firstWhole] at hearlier
  complete {text} h start hle := by
    have hnone := List.find?_eq_none.mp h start (List.mem_range.mpr (Nat.lt_succ_of_le hle))
    rwa [isSome_firstWhole] at hnone

namespace ExtensionPattern

variable {p q : ExtensionPattern} {text : List Char} {list : String}

/-! ### A pattern as a search -/

/-- What the pattern searches for: its entries after a dot. -/
def alternatives (p : ExtensionPattern) : List (List Char) := p.extensions.map ('.' :: ·)

theorem isDotted_iff_mem : p.isDotted text = true ↔ text ∈ p.alternatives := by
  rw [isDotted_iff, alternatives, List.mem_map]
  simp only [eq_comm]

/-- A text that has an extension at some place and at none before is cut there. -/
theorem stem_eq_take_of_first {start : Nat} (hstart : p.isDotted (text.drop start) = true)
    (hfirst : ∀ earlier < start, p.isDotted (text.drop earlier) = false) :
    p.stem text = text.take start := by
  induction text generalizing start with
  | nil => simp [stem]
  | cons c rest ih =>
    cases start with
    | zero =>
      rw [List.drop_zero] at hstart
      rw [stem, if_pos hstart, List.take_zero]
    | succ start =>
      have hhere : p.isDotted (c :: rest) = false := hfirst 0 start.succ_pos
      rw [stem, hhere, List.take_succ_cons]
      exact congrArg (c :: ·) (ih hstart fun earlier hlt => hfirst (earlier + 1) (Nat.succ_lt_succ hlt))

/-- A text without an extension is left as it is. -/
theorem stem_of_endsText_eq_false (h : p.endsText text = false) : p.stem text = text := by
  induction text with
  | nil => rfl
  | cons c rest ih =>
    obtain ⟨hhere, hrest⟩ := Bool.or_eq_false_iff.mp h
    rw [stem, hhere, ih hrest]
    rfl

theorem endsText_iff_ne : p.endsText text = true ↔ p.stem text ≠ text := by
  constructor
  · intro h hself
    obtain ⟨e, _, hwhole, _⟩ := stem_append_extension h
    rw [hself] at hwhole
    exact List.cons_ne_nil '.' e (List.self_eq_append_right.mp hwhole)
  · intro hne
    rw [← Bool.not_eq_false]
    exact mt stem_of_endsText_eq_false hne

theorem endsText_iff_drop : p.endsText text = true ↔ ∃ start ≤ text.length, text.drop start ∈ p.alternatives := by
  rw [endsText_iff]
  constructor
  · rintro ⟨e, he, hsuffix⟩
    refine ⟨text.length - ('.' :: e).length, Nat.sub_le .., ?_⟩
    rw [← List.suffix_iff_eq_drop.mp hsuffix]
    exact List.mem_map_of_mem he
  · rintro ⟨start, _, hmem⟩
    obtain ⟨e, he, hdrop⟩ := List.mem_map.mp hmem
    exact ⟨e, he, hdrop ▸ List.drop_suffix start text⟩

variable {find : List Char → Option Nat}

/-- A text has an extension if the search finds one. -/
theorem endsText_eq_isSome (hfind : IsSearch p.alternatives find) (text : List Char) :
    p.endsText text = (find text).isSome := by
  rw [Bool.eq_iff_iff, endsText_iff_drop]
  cases h : find text with
  | none => simpa using hfind.complete h
  | some start => exact ⟨fun _ => rfl, fun _ => ⟨start, hfind.literal h⟩⟩

/-- A text is cut where the search finds an extension. -/
theorem stem_eq_take (hfind : IsSearch p.alternatives find) (text : List Char) :
    p.stem text = text.take ((find text).getD text.length) := by
  cases h : find text with
  | none =>
    rw [Option.getD_none, List.take_length]
    exact stem_of_endsText_eq_false (by rw [endsText_eq_isSome hfind, h]; rfl)
  | some start =>
    refine stem_eq_take_of_first (isDotted_iff_mem.mpr (hfind.literal h).2) fun earlier hlt => ?_
    rw [Bool.eq_false_iff]
    exact mt isDotted_iff_mem.mp (hfind.leftmost h earlier hlt)

/-! ### What a pattern depends on -/

theorem ofList_eq_ok (h : entries list ≠ []) : ofList list = .ok ⟨list, entries list, h⟩ := dif_neg h

/-- The extensions of a pattern are the entries of its list. -/
theorem extensions_of_ofList (h : ofList list = .ok p) : p.extensions = entries list := by
  unfold ofList at h
  split at h
  · cases h
  · cases h
    rfl

theorem mem_entries_iff {e : List Char} : e ∈ entries list ↔ e ∈ list.toList.splitOn '|' ∧ e ≠ [] := by
  simp [entries]

section SameEntries

variable (hsame : ∀ e, e ∈ p.extensions ↔ e ∈ q.extensions)
include hsame

theorem isDotted_congr (text : List Char) : p.isDotted text = q.isDotted text := by
  rw [Bool.eq_iff_iff, isDotted_iff, isDotted_iff]
  simp only [hsame]

theorem stem_congr (text : List Char) : p.stem text = q.stem text := by
  induction text with
  | nil => rfl
  | cons c rest ih => rw [stem, stem, isDotted_congr hsame, ih]

theorem endsText_congr (text : List Char) : p.endsText text = q.endsText text := by
  rw [Bool.eq_iff_iff, endsText_iff, endsText_iff]
  simp only [hsame]

end SameEntries

/-! ### The longest suffix -/

/-- **The longest suffix comes off.** A list is refused if it has no entry but the empty one. Any other
gives a pattern, and a name matches it if it ends in a dot and an entry. It is then cut before the
longest such suffix, and otherwise left as it is, so that only a name that matches is changed; to
replace is to cut and to append. That is what any search for the alternatives comes to. Another list
with the same entries, in whatever order and however often, with empty entries or without, gives a
pattern that does the same. -/
theorem extension_longest (list : String) :
    (∀ failure, ofList list = .error failure ↔ entries list = [] ∧ failure = .invalidExtension list) ∧
    (entries list ≠ [] → ∃ p, ofList list = .ok p ∧ p.extensions = entries list ∧
      (∀ name,
        (p.isMatch name = true ↔ ∃ e ∈ entries list, '.' :: e <:+ name.toList) ∧
        (p.isMatch name = true → ∃ extension, p.Cuts name (p.strip name) extension) ∧
        (p.isMatch name = false → p.strip name = name) ∧
        (p.isMatch name = true ↔ p.strip name ≠ name) ∧
        (∀ ending, p.replace name ending = p.strip name ++ ending) ∧
        ∀ find, IsSearch ((entries list).map ('.' :: ·)) find →
          p.isMatch name = (find name.toList).isSome ∧
          (p.strip name).toList = name.toList.take ((find name.toList).getD name.toList.length)) ∧
      ∀ other : String, (∀ e ≠ [], e ∈ other.toList.splitOn '|' ↔ e ∈ list.toList.splitOn '|') →
        ∃ q, ofList other = .ok q ∧ ∀ name ending, q.isMatch name = p.isMatch name ∧
          q.strip name = p.strip name ∧ q.replace name ending = p.replace name ending) := by
  refine ⟨fun failure => ?_, fun hsome => ⟨_, ofList_eq_ok hsome, rfl, fun name => ?_, fun other hother => ?_⟩⟩
  · rw [ofList_eq_error_iff, entries_eq_nil_iff]
  · have hstrip : ∀ {stem}, String.ofList stem = name ↔ stem = name.toList := by
      intro stem
      rw [← String.toList_inj, String.toList_ofList]
    refine ⟨endsText_iff, cuts_of_isMatch, fun h => hstrip.mpr (stem_of_endsText_eq_false h),
      endsText_iff_ne.trans (not_congr hstrip.symm), fun _ => rfl, fun find hfind => ?_⟩
    have hsearch : IsSearch (ExtensionPattern.mk list (entries list) hsome).alternatives find := hfind
    exact ⟨endsText_eq_isSome hsearch _, String.toList_ofList.trans (stem_eq_take hsearch _)⟩
  · have hsame : ∀ e, e ∈ entries other ↔ e ∈ entries list := by
      intro e
      rw [mem_entries_iff, mem_entries_iff]
      exact and_congr_left (hother e)
    have hsome' : entries other ≠ [] := by
      obtain ⟨e, he⟩ := List.exists_mem_of_ne_nil _ hsome
      exact List.ne_nil_of_mem ((hsame e).mpr he)
    refine ⟨_, ofList_eq_ok hsome', fun name ending => ⟨endsText_congr hsame _, ?_, ?_⟩⟩
    · exact congrArg String.ofList (stem_congr hsame _)
    · exact congrArg (String.ofList · ++ ending) (stem_congr hsame _)

/-- One entry ends in the other and is found first although it is listed last. -/
theorem extension_longest_nested :
    ∃ p, ofList "hbs|tpl.hbs" = .ok p ∧ p.isMatch "seite.tpl.hbs" = true ∧
      (p.strip "seite.tpl.hbs").toList = "seite".toList ∧
      ∃ q, ofList "|tpl.hbs|hbs||hbs" = .ok q ∧ q.replace "seite.tpl.hbs" ".js" = "seite.js" := by
  obtain ⟨p, hp, _, hname, hother⟩ := (extension_longest "hbs|tpl.hbs").2 (by decide)
  obtain ⟨_, _, _, _, _, hsearch⟩ := hname "seite.tpl.hbs"
  obtain ⟨hmatch, hstrip⟩ := hsearch _ (leftmost_isSearch _)
  have hraw : "hbs|tpl.hbs".toList.splitOn '|' = ["hbs".toList, "tpl.hbs".toList] := by decide
  have hpadded : "|tpl.hbs|hbs||hbs".toList.splitOn '|' =
      [[], "tpl.hbs".toList, "hbs".toList, [], "hbs".toList] := by decide
  have hentries : ∀ e ≠ [], e ∈ "|tpl.hbs|hbs||hbs".toList.splitOn '|' ↔
      e ∈ "hbs|tpl.hbs".toList.splitOn '|' := by
    rw [hraw, hpadded]
    generalize "hbs".toList = short, "tpl.hbs".toList = long
    intro e he
    simp [he, or_comm]
  obtain ⟨q, hq, hsame⟩ := hother _ hentries
  have hstem : (p.strip "seite.tpl.hbs").toList = "seite".toList := hstrip.trans (by decide +kernel)
  refine ⟨p, hp, hmatch.trans (by decide +kernel), hstem, q, hq, ?_⟩
  rw [(hsame _ _).2.2, replace, String.toList_inj.mp hstem]
  rfl

end ExtensionPattern

end Precompiler
