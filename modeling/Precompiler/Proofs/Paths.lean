import Precompiler.Path
import Precompiler.Files.Write

/-! Paths, segment by segment.

A path is a text, and every function on paths cuts or glues texts. Here each of them is
said through segments: gluing with a separator appends segments (`segments_append`), a join
appends to the *bare* segments of its base (`segments_join`), and another file name takes
the place of the last segment (`segments_withFileName`). What the functions drop are idle
segments only. -/
namespace Precompiler.Path

/-! ### Cutting and gluing -/

theorem segments_ne_nil (path : Path) : segments path ≠ [] := by
  simp [segments, List.splitOn_ne_nil]

theorem not_mem_of_mem_splitOn {c : Char} {text piece : List Char} (h : piece ∈ text.splitOn c) :
    c ∉ piece := by
  induction text generalizing piece with
  | nil => simp_all
  | cons d rest ih =>
    rw [List.splitOn_cons_eq_if_modifyHead] at h
    split at h
    · rcases List.mem_cons.mp h with rfl | h
      · exact List.not_mem_nil
      · exact ih h
    next hd =>
      cases hsplit : rest.splitOn c with
      | nil => exact absurd hsplit (List.splitOn_ne_nil c rest)
      | cons first pieces =>
        rw [hsplit] at h ih
        rcases List.mem_cons.mp h with rfl | h
        · have hfirst := ih List.mem_cons_self
          have hne : c ≠ d := fun heq => hd (by simp [heq])
          simp [hfirst, hne]
        · exact ih (List.mem_cons_of_mem first h)

/-- No segment holds a separator. -/
theorem not_mem_of_mem_segments {path : Path} {segment : String} (h : segment ∈ segments path) :
    '/' ∉ segment.toList := by
  obtain ⟨piece, hpiece, rfl⟩ := List.mem_map.mp h
  rw [String.toList_ofList]
  exact not_mem_of_mem_splitOn hpiece

/-- A path that is cut before its last segment holds no separator in a segment on either side. -/
theorem bare_of_segments {path : Path} {front : List String} {name : String}
    (h : segments path = front ++ [name]) : (∀ s ∈ front, '/' ∉ s.toList) ∧ '/' ∉ name.toList := by
  have hall : ∀ s ∈ front ++ [name], '/' ∉ s.toList := fun s hs => not_mem_of_mem_segments (h ▸ hs)
  exact ⟨fun s hs => hall s (List.mem_append_left _ hs), hall name (by simp)⟩

theorem segments_append (a b : Path) : segments (a ++ "/" ++ b) = segments a ++ segments b := by
  have hsplit : (a ++ "/" ++ b).toList = a.toList ++ '/' :: b.toList := by
    simp [String.toList_append]
  rw [segments, hsplit, List.splitOn_append_cons_self, List.map_append]
  rfl

theorem segments_of_not_mem {name : String} (h : '/' ∉ name.toList) : segments name = [name] := by
  rw [segments, List.splitOn_eq_singleton h, List.map_singleton, String.ofList_toList]

theorem toList_ofSegments (names : List String) :
    (ofSegments names).toList = ['/'].intercalate (names.map String.toList) := by
  rw [ofSegments, String.toList_intercalate]
  rfl

theorem segments_ofSegments {names : List String} (hne : names ≠ [])
    (h : ∀ name ∈ names, '/' ∉ name.toList) : segments (ofSegments names) = names := by
  rw [segments, toList_ofSegments, List.splitOn_intercalate]
  · simp [Function.comp_def]
  · intro l hl
    obtain ⟨name, hname, rfl⟩ := List.mem_map.mp hl
    exact h name hname
  · simpa using hne

theorem ofSegments_segments (path : Path) : ofSegments (segments path) = path := by
  rw [← String.toList_inj, toList_ofSegments]
  simp [segments, Function.comp_def, List.intercalate_splitOn]

theorem ofSegments_concat {front : List String} (hne : front ≠ []) (last : String) :
    ofSegments (front ++ [last]) = ofSegments front ++ "/" ++ last := by
  rw [ofSegments, String.intercalate_append_of_ne_nil hne (by simp), String.intercalate_singleton]
  rfl

theorem segments_empty : segments "" = [""] := rfl

theorem segments_root : segments "/" = ["", ""] := by decide

/-- A path is absolute if it begins with an empty segment and has another one. -/
theorem isAbsolute_iff {path : Path} :
    path.isAbsolute = true ↔ ∃ rest, rest ≠ [] ∧ segments path = "" :: rest := by
  unfold isAbsolute segments
  rcases path.toList with _ | ⟨c, rest⟩
  · simp
  · rw [List.splitOn_cons_eq_if_modifyHead]
    by_cases hc : c = '/'
    · simp [hc, List.splitOn_ne_nil]
    · rcases hsplit : rest.splitOn '/' with _ | ⟨first, pieces⟩
      · exact absurd hsplit (List.splitOn_ne_nil '/' rest)
      · simp [hc, List.modifyHead]

/-! ### The base of a join -/

/-- The segments of a path without an empty one at the end: what a name is put behind. -/
def bareSegments (path : Path) : List String :=
  if (segments path).getLast (segments_ne_nil path) = "" then (segments path).dropLast
  else segments path

theorem segments_eq_bare (path : Path) :
    ∃ idle, segments path = bareSegments path ++ idle ∧ ∀ s ∈ idle, isIdle s = true := by
  unfold bareSegments
  split
  case isTrue h =>
    have hsplit := List.dropLast_concat_getLast (segments_ne_nil path)
    rw [h] at hsplit
    exact ⟨[""], hsplit.symm, by simp [isIdle]⟩
  case isFalse h => exact ⟨[], (List.append_nil _).symm, by simp⟩

theorem bareSegments_of_append_empty {path : Path} {front : List String}
    (h : segments path = front ++ [""]) : bareSegments path = front := by
  simp [bareSegments, h]

theorem bareSegments_of_append {path : Path} {front : List String} {last : String}
    (h : segments path = front ++ [last]) (hlast : last ≠ "") :
    bareSegments path = front ++ [last] := by
  simp [bareSegments, h, hlast]

/-- A path that ends in a separator ends in an empty segment, and so does the empty path. -/
theorem bareSegments_eq (path : Path) :
    bareSegments path =
      if path == "" || path.toList.getLast? == some '/' then (segments path).dropLast
      else segments path := by
  obtain ⟨front, last, hsplit⟩ : ∃ front last, segments path = front ++ [last] :=
    ⟨_, _, (List.dropLast_concat_getLast (segments_ne_nil path)).symm⟩
  have hlast := (bare_of_segments hsplit).2
  have hpath := ofSegments_segments path
  by_cases hfront : front = []
  · have : last = path := by simpa [hsplit, hfront, ofSegments] using hpath
    have hend : path.toList.getLast? ≠ some '/' := by
      intro h
      exact hlast (this ▸ List.mem_of_getLast? h)
    simp [bareSegments, hsplit, this, hend]
  · rw [hsplit, ofSegments_concat hfront] at hpath
    have hend : path.toList.getLast? = some (last.toList.getLast?.getD '/') := by
      rw [← hpath]
      simp [String.toList_append, List.getLast?_append, List.getLast?_cons]
    have hne : path ≠ "" := by
      intro h
      simp [h] at hend
    have hiff : last.toList.getLast?.getD '/' = '/' ↔ last = "" := by
      rcases h : last.toList.getLast? with _ | c
      · simpa using List.getLast?_eq_none_iff.mp h
      · have hc : c ≠ '/' := fun heq => hlast (heq ▸ List.mem_of_getLast? h)
        have : last ≠ "" := by
          rintro rfl
          simp at h
        simp [hc, this]
    simp [bareSegments, hsplit, hend, hne, hiff]

/-- A join appends to the bare segments of its base. -/
theorem segments_join {base name : Path} (h : name.isAbsolute = false) :
    segments (join base name) = bareSegments base ++ segments name := by
  unfold join
  rw [if_neg (by simp [h]), bareSegments_eq]
  split
  case isFalse hend => rw [segments_append]
  case isTrue hend =>
    by_cases hempty : base = ""
    · simp [hempty, segments_empty]
    · -- The separator at the end of the base is the one that a join would put.
      obtain ⟨text, hbase⟩ : ∃ text, base = text ++ "/" := by
        have hlast : base.toList.getLast? = some '/' := by simpa [hempty] using hend
        obtain ⟨text, htext⟩ := List.getLast?_eq_some_iff.mp hlast
        exact ⟨String.ofList text, by rw [← String.toList_inj]; simpa using htext⟩
      have hsplit : segments base = segments text ++ [""] := by
        have := segments_append text ""
        rwa [String.append_empty, segments_empty, ← hbase] at this
      rw [hsplit, List.dropLast_concat, hbase, segments_append]

theorem isAbsolute_of_segments {a b : Path} (h : (segments a).head? = (segments b).head?)
    (ha : 2 ≤ (segments a).length) (hb : 2 ≤ (segments b).length) : a.isAbsolute = b.isAbsolute := by
  rw [Bool.eq_iff_iff, isAbsolute_iff, isAbsolute_iff]
  rcases hsa : segments a with _ | ⟨x, _ | ⟨x', as⟩⟩ <;>
    rcases hsb : segments b with _ | ⟨y, _ | ⟨y', bs⟩⟩ <;> simp_all

theorem isAbsolute_of_not_mem {name : String} (h : '/' ∉ name.toList) :
    Path.isAbsolute name = false := by
  rw [Bool.eq_false_iff]
  intro habs
  obtain ⟨rest, hrest, hsegments⟩ := isAbsolute_iff.mp habs
  rw [segments_of_not_mem h] at hsegments
  exact hrest (List.cons.inj hsegments).2.symm

/-- A name that is joined becomes the last segment. -/
theorem segments_join_name {base name : Path} (h : '/' ∉ name.toList) :
    segments (join base name) = bareSegments base ++ [name] := by
  rw [segments_join (isAbsolute_of_not_mem h), segments_of_not_mem h]

/-! ### The last component -/

theorem dropIdleEnd_append (names : List String) :
    ∃ idle, names = dropIdleEnd names ++ idle ∧ ∀ s ∈ idle, isIdle s = true := by
  cases names with
  | nil => exact ⟨[], rfl, by simp⟩
  | cons first rest =>
    refine ⟨(rest.reverse.takeWhile isIdle).reverse, ?_, fun s hs => ?_⟩
    · rw [dropIdleEnd, List.cons_append, ← List.reverse_append, List.takeWhile_append_dropWhile,
        List.reverse_reverse]
    · exact List.all_eq_true.mp List.all_takeWhile s (List.mem_reverse.mp hs)

theorem dropIdleEnd_concat {front : List String} {last : String} (h : isIdle last = false) :
    dropIdleEnd (front ++ [last]) = front ++ [last] := by
  cases front with
  | nil => rfl
  | cons first rest => simp [dropIdleEnd, h]

/-- The path of a directory whose segments are given. -/
def directoryPath (names : List String) : Path :=
  match dropIdleEnd names with
  | [""] => "/"
  | kept => ofSegments kept

/-- The path of a directory ends in no empty segment, unless it is the root. -/
theorem bareSegments_directoryPath {names : List String} (h : ∀ s ∈ names, '/' ∉ s.toList) :
    bareSegments (directoryPath names) = dropIdleEnd names := by
  unfold directoryPath
  split
  case _ heq => rw [heq, bareSegments_of_append_empty (show segments "/" = [""] ++ [""] from segments_root)]
  case _ kept hroot =>
    obtain ⟨idle, hnames, _⟩ := dropIdleEnd_append names
    have hkept : ∀ s ∈ dropIdleEnd names, '/' ∉ s.toList := fun s hs =>
      h s (hnames ▸ List.mem_append_left idle hs)
    cases names with
    | nil =>
      have hnone : segments (ofSegments []) = [] ++ [""] := rfl
      rw [dropIdleEnd, bareSegments_of_append_empty hnone]
    | cons first rest =>
      have hne : dropIdleEnd (first :: rest) ≠ [] := by simp [dropIdleEnd]
      have hsegments := segments_ofSegments hne hkept
      rcases List.eq_nil_or_concat (rest.reverse.dropWhile isIdle).reverse with hnil | ⟨front, last, hlast⟩
      · have heq : dropIdleEnd (first :: rest) = [] ++ [first] := by simp [dropIdleEnd, hnil]
        have hfirst : first ≠ "" := by
          rintro rfl
          exact hroot heq
        rw [heq] at hsegments ⊢
        exact bareSegments_of_append hsegments hfirst
      · have heq : dropIdleEnd (first :: rest) = (first :: front) ++ [last] := by
          simp [dropIdleEnd, hlast]
        have hspeaks : last ≠ "" := by
          rintro rfl
          have hhead : (rest.reverse.dropWhile isIdle).head? = some "" := by
            rw [← List.getLast?_reverse, hlast]
            simp
          have := List.head?_dropWhile_not isIdle rest.reverse
          rw [hhead] at this
          simp [isIdle] at this
        rw [heq] at hsegments ⊢
        exact bareSegments_of_append hsegments hspeaks

/-- A path whose last segment says something is cut before it. -/
theorem split?_of_segments {path : Path} {front : List String} {name : String}
    (h : segments path = front ++ [name]) (hname : isIdle name = false) :
    path.split? = some (front, name) := by
  rw [split?, h, dropIdleEnd_concat hname]
  have hne : name ≠ "" := by
    rintro rfl
    simp [isIdle] at hname
  rcases List.eq_nil_or_concat front with rfl | ⟨init, last, rfl⟩
  · simp [hne]
  · simp

theorem fileName?_of_segments {path : Path} {front : List String} {name : String}
    (h : segments path = front ++ [name]) (hname : isIdle name = false) (hup : name ≠ "..") :
    path.fileName? = some name := by
  have hdot : name ≠ "." := by
    rintro rfl
    simp [isIdle] at hname
  simp [fileName?, split?_of_segments h hname, hdot, hup]

theorem parent?_of_segments {path : Path} {front : List String} {name : String}
    (h : segments path = front ++ [name]) (hname : isIdle name = false) :
    path.parent? = some (directoryPath front) := by
  rw [parent?, split?_of_segments h hname]
  rfl

/-- Another file name takes the place of the last segment; idle segments before it may go. -/
theorem segments_withFileName {path : Path} {front : List String} {name new : String}
    (h : segments path = front ++ [name]) (hname : isIdle name = false) (hup : name ≠ "..")
    (hnew : '/' ∉ new.toList) :
    segments (withFileName path new) = dropIdleEnd front ++ [new] := by
  have hfront := (bare_of_segments h).1
  rw [withFileName, fileName?_of_segments h hname hup, parent?_of_segments h hname]
  show segments (join _ new) = _
  rw [segments_join_name hnew, bareSegments_directoryPath hfront]

theorem isAbsolute_withFileName {path : Path} {front : List String} {name new : String}
    (h : segments path = front ++ [name]) (hname : isIdle name = false) (hup : name ≠ "..")
    (hnew : '/' ∉ new.toList) : (withFileName path new).isAbsolute = path.isAbsolute := by
  have hnewpath := segments_withFileName h hname hup hnew
  cases front with
  | nil =>
    have hlast : ∀ {p : Path} {s : String}, segments p = [s] → p.isAbsolute = false := by
      intro p s hp
      rw [Bool.eq_false_iff]
      intro habs
      obtain ⟨rest, hrest, heq⟩ := isAbsolute_iff.mp habs
      rw [hp] at heq
      exact hrest (List.cons.inj heq).2.symm
    rw [hlast h, hlast hnewpath]
  | cons first rest =>
    exact isAbsolute_of_segments (by simp [h, hnewpath, dropIdleEnd])
      (by simp [hnewpath, dropIdleEnd]) (by simp [h])

/-! ### What segments say -/

/-- The segments that say something. -/
def speaking (names : List String) : List String := names.filter fun name => !isIdle name

theorem speaking_append (names more : List String) :
    speaking (names ++ more) = speaking names ++ speaking more := List.filter_append names more

theorem speaking_of_idle {names : List String} (h : ∀ s ∈ names, isIdle s = true) :
    speaking names = [] := by
  rw [speaking, List.filter_eq_nil_iff]
  intro s hs
  simp [h s hs]

theorem speaking_bareSegments (path : Path) : speaking (bareSegments path) = speaking (segments path) := by
  obtain ⟨idle, hsegments, hidle⟩ := segments_eq_bare path
  rw [hsegments, speaking_append, speaking_of_idle hidle, List.append_nil]

theorem speaking_dropIdleEnd (names : List String) : speaking (dropIdleEnd names) = speaking names := by
  obtain ⟨idle, hnames, hidle⟩ := dropIdleEnd_append names
  conv => rhs; rw [hnames, speaking_append, speaking_of_idle hidle, List.append_nil]

/-- The path of a directory says what its segments say. -/
theorem speaking_directoryPath {names : List String} (h : ∀ s ∈ names, '/' ∉ s.toList) :
    speaking (segments (directoryPath names)) = speaking names := by
  rw [← speaking_bareSegments, bareSegments_directoryPath h, speaking_dropIdleEnd]

/-- A path and the directory it is in begin at the same place. -/
theorem isAbsolute_directoryPath {path : Path} {front : List String} {name : String}
    (h : segments path = front ++ [name]) : (directoryPath front).isAbsolute = path.isAbsolute := by
  have hfront := (bare_of_segments h).1
  cases front with
  | nil =>
    have hname := (bare_of_segments h).2
    have hpath : path = name := by rw [← ofSegments_segments path, h]; simp [ofSegments]
    rw [hpath, isAbsolute_of_not_mem hname]
    rfl
  | cons first rest =>
    have hkept : ∀ s ∈ dropIdleEnd (first :: rest), '/' ∉ s.toList := fun s hs => by
      obtain ⟨idle, hnames, _⟩ := dropIdleEnd_append (first :: rest)
      exact hfront s (hnames ▸ List.mem_append_left idle hs)
    have hpath : path.isAbsolute = true ↔ first = "" := by
      rw [isAbsolute_iff, h]
      simp
    rw [Bool.eq_iff_iff, hpath]
    unfold directoryPath
    split
    next heq =>
      simp only [dropIdleEnd, List.cons.injEq] at heq
      simp [heq.1, isAbsolute]
    next kept hroot =>
      rw [isAbsolute_iff, segments_ofSegments (by simp [dropIdleEnd]) hkept]
      simp only [dropIdleEnd, List.cons.injEq] at hroot ⊢
      constructor
      · rintro ⟨_, _, hfirst, _⟩
        exact hfirst
      · rintro rfl
        exact ⟨_, fun hnil => hroot ⟨rfl, hnil⟩, rfl, rfl⟩

theorem isAbsolute_join {base name : Path} (hbase : base ≠ "") (hname : name.isAbsolute = false) :
    (join base name).isAbsolute = base.isAbsolute := by
  have hne : base.toList ≠ [] := by simpa using hbase
  obtain ⟨c, rest, hcons⟩ := List.exists_cons_of_ne_nil hne
  unfold join
  rw [if_neg (by simp [hname])]
  split <;> simp [isAbsolute, String.toList_append, hcons]

theorem le_utf8ByteSize_join {base name : Path} (h : name.isAbsolute = false) :
    base.utf8ByteSize + name.utf8ByteSize ≤ (join base name).utf8ByteSize := by
  unfold join
  rw [if_neg (by simp [h])]
  split <;> simp only [String.utf8ByteSize_append] <;> omega

/-- A path is a directory's path and a name in it, up to segments that say nothing. -/
structure Splits (path directory : Path) (name : String) : Prop where
  segments : ∃ front, segments path = front ++ [name] ∧
    speaking (segments directory) = speaking front
  isAbsolute : directory.isAbsolute = path.isAbsolute

theorem Splits.bare {path directory : Path} {name : String} (h : path.Splits directory name) :
    '/' ∉ name.toList := by
  obtain ⟨front, hsegments, _⟩ := h.segments
  exact (bare_of_segments hsegments).2

theorem splits_join {base : Path} {name : String} (hbase : base ≠ "") (hname : '/' ∉ name.toList) :
    (join base name).Splits base name where
  segments := ⟨bareSegments base, segments_join_name hname, (speaking_bareSegments base).symm⟩
  isAbsolute := (isAbsolute_join hbase (isAbsolute_of_not_mem hname)).symm

/-! ### Separators at the end -/

theorem segments_append_separators (path : Path) (k : Nat) :
    segments (path ++ String.ofList (List.replicate k '/')) = segments path ++ List.replicate k "" := by
  induction k with
  | zero => simp
  | succ k ih =>
    have hone : path ++ String.ofList (List.replicate (k + 1) '/') =
        path ++ String.ofList (List.replicate k '/') ++ "/" ++ "" := by
      rw [← String.toList_inj]
      simp [String.toList_append, List.replicate_succ']
    rw [hone, segments_append, ih, segments_empty, List.append_assoc, List.replicate_succ']

/-- Only separators are dropped, and never all of a path. -/
theorem dropEndSeparators_append (path : Path) :
    (∃ k, path = path.dropEndSeparators ++ String.ofList (List.replicate k '/')) ∧
      (path.dropEndSeparators = "" → path = "") := by
  have hpath : path.toList = (path.toList.reverse.dropWhile (· == '/')).reverse ++
      (path.toList.reverse.takeWhile (· == '/')).reverse := by
    rw [← List.reverse_append, List.takeWhile_append_dropWhile, List.reverse_reverse]
  obtain ⟨k, hk⟩ : ∃ k, (path.toList.reverse.takeWhile (· == '/')).reverse = List.replicate k '/' :=
    ⟨_, List.eq_replicate_of_mem fun c hc => by
      simpa using List.all_eq_true.mp List.all_takeWhile c (List.mem_reverse.mp hc)⟩
  rw [hk] at hpath
  unfold dropEndSeparators
  generalize (path.toList.reverse.dropWhile (· == '/')).reverse = body at hpath
  have htext : path = String.ofList body ++ String.ofList (List.replicate k '/') := by
    rw [← String.toList_inj, hpath]
    simp
  rcases body with _ | ⟨c, body⟩
  · rcases k with _ | k
    · have hempty : path = "" := by simpa using htext
      exact ⟨⟨0, by simp [hempty]⟩, fun _ => hempty⟩
    · have hne : path ≠ "" := by
        intro h
        simp [h] at hpath
      refine ⟨⟨k, ?_⟩, by simp [hne]⟩
      rw [← String.toList_inj, hpath]
      simp [hne, List.replicate_succ]
  · exact ⟨⟨k, htext⟩, by simp⟩

/-- What separators at the end add to a path is idle. -/
theorem segments_dropEndSeparators (path : Path) :
    ∃ idle, segments path = segments path.dropEndSeparators ++ idle ∧ ∀ s ∈ idle, isIdle s = true := by
  obtain ⟨k, hk⟩ := (dropEndSeparators_append path).1
  refine ⟨List.replicate k "", ?_, fun s hs => by simp [(List.mem_replicate.mp hs).2, isIdle]⟩
  conv => lhs; rw [hk]
  exact segments_append_separators _ k

theorem isAbsolute_dropEndSeparators (path : Path) :
    path.dropEndSeparators.isAbsolute = path.isAbsolute := by
  obtain ⟨⟨k, hk⟩, hempty⟩ := dropEndSeparators_append path
  by_cases hnil : path.dropEndSeparators = ""
  · rw [hnil, hempty hnil]
  · have hne : path.dropEndSeparators.toList ≠ [] := by simpa using hnil
    have habsolute : path.isAbsolute =
        (path.dropEndSeparators ++ String.ofList (List.replicate k '/')).isAbsolute := by rw [← hk]
    obtain ⟨c, rest, hcons⟩ := List.exists_cons_of_ne_nil hne
    rw [habsolute, isAbsolute, isAbsolute, String.toList_append, hcons]
    rfl

theorem isUsable_dropEndSeparators {path : Path} (h : path.isUsable = true) :
    path.dropEndSeparators.isUsable = true := by
  obtain ⟨k, hk⟩ := (dropEndSeparators_append path).1
  rw [hk] at h
  simp only [isUsable, String.utf8ByteSize_append, String.toList_append, Bool.and_eq_true,
    decide_eq_true_eq, Bool.not_eq_true', List.contains_eq_mem, List.mem_append,
    decide_eq_false_iff_not, not_or] at h ⊢
  exact ⟨by omega, h.2.1⟩

/-- A path without a separator at its end stays as it is. -/
theorem dropEndSeparators_eq_self {path : Path} (h : path.toList.getLast? ≠ some '/') :
    path.dropEndSeparators = path := by
  obtain ⟨⟨k, hk⟩, _⟩ := dropEndSeparators_append path
  rcases k with _ | k
  · simpa using hk.symm
  · refine absurd ?_ h
    rw [hk, String.toList_append, String.toList_ofList, List.replicate_succ', ← List.append_assoc,
      List.getLast?_concat]

/-- But for the root, no path of a directory ends in a separator. -/
theorem dropEndSeparators_directoryPath {names : List String} (h : ∀ s ∈ names, '/' ∉ s.toList) :
    (directoryPath names).dropEndSeparators = directoryPath names := by
  have hbare := bareSegments_directoryPath h
  have hkept : directoryPath names = "/" ∨ directoryPath names = ofSegments (dropIdleEnd names) := by
    unfold directoryPath
    split
    · exact .inl rfl
    · exact .inr rfl
  rcases hkept with hroot | hkept
  · rw [hroot]
    decide
  · refine dropEndSeparators_eq_self fun hlast => ?_
    have hfront : ∀ s ∈ dropIdleEnd names, '/' ∉ s.toList := by
      obtain ⟨idle, hnames, _⟩ := dropIdleEnd_append names
      exact fun s hs => h s (hnames ▸ List.mem_append_left idle hs)
    rw [bareSegments_eq, hlast, if_pos (by simp)] at hbare
    by_cases hnil : dropIdleEnd names = []
    · rw [hkept, hnil] at hlast
      exact absurd hlast (by decide)
    · -- A path of such segments has no more segments than these.
      rw [hkept, segments_ofSegments hnil hfront] at hbare
      have hlength := congrArg List.length hbare
      rw [List.length_dropLast] at hlength
      have hpos := List.length_pos_iff.mpr hnil
      omega

theorem dropEndSeparators_parent? {path parent : Path} (h : path.parent? = some parent) :
    parent.dropEndSeparators = parent := by
  obtain ⟨⟨before, last⟩, hsplit, hparent⟩ := Option.map_eq_some_iff.mp h
  have hbefore : ∀ s ∈ before, '/' ∉ s.toList := by
    intro s hs
    obtain ⟨idle, hsegments, _⟩ := dropIdleEnd_append path.segments
    have hmem : s ∈ (dropIdleEnd path.segments).reverse := by
      unfold split? at hsplit
      split at hsplit
      next => cases hsplit
      next =>
        split at hsplit
        · cases hsplit
        · cases hsplit
          cases hs
      next last' rest hreverse =>
        cases hsplit
        rw [hreverse]
        exact List.mem_cons_of_mem _ (List.mem_reverse.mp hs)
    have hpath : s ∈ path.segments := by
      rw [hsegments]
      exact List.mem_append_left idle (List.mem_reverse.mp hmem)
    exact not_mem_of_mem_segments hpath
  subst hparent
  exact dropEndSeparators_directoryPath hbefore

theorem dropEndSeparators_ancestors {path above : Path} (h : path.dropEndSeparators = path)
    (habove : above ∈ path.ancestors) : above.dropEndSeparators = above := by
  unfold ancestors at habove
  generalize path.length = n at habove
  induction n generalizing path with
  | zero =>
    obtain rfl := List.mem_singleton.mp habove
    exact h
  | succ n ih =>
    rw [ancestorsWithin] at habove
    split at habove
    next =>
      obtain rfl := List.mem_singleton.mp habove
      exact h
    next parent hparent =>
      rcases List.mem_cons.mp habove with rfl | hrest
      · exact h
      · exact ih (dropEndSeparators_parent? hparent) hrest

end Precompiler.Path
