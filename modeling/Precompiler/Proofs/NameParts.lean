import Precompiler.Proofs.Extensions
import Precompiler.Proofs.OutputNames

/-! The parts of a path.

A name is what is left of a path when its front and its ending are off. The front is settled by the root: it is a
directory's path with a separator behind it, or it is nothing (`Front`), and what the root leaves is all that is
behind it (`Front.append_belowRoot`). The ending is the longest extension of what is left then (`Ending`). The two
cuts do not meet: where no extension has a separator in it, the ending is off the path just as it is off what the
root leaves (`Front.strip_append`), and the front stays what it was (`Front.strip`). So either cut may come first
(`name_parts`). -/
namespace Precompiler

open ExtensionPattern (entries)

variable {pattern : ExtensionPattern} {root : Option String} {path front rest : String}

/-! ### The front -/

/-- What comes off the front of a path, so that a template is named after the rest. -/
inductive Front : Option String → String → String → Prop where
  /-- Without a root everything up to the last separator comes off. -/
  | directory {above rest : String} : '/' ∉ rest.toList → Front none (above ++ "/" ++ rest) (above ++ "/")
  | alone {path : String} : '/' ∉ path.toList → Front none path ""
  /-- An empty root leaves the path alone. -/
  | kept {path : String} : Front (some "") path ""
  /-- A root comes off together with the separator behind it, or nothing does. -/
  | below {root rest : String} : root ≠ "" → Front (some root) (root ++ "/" ++ rest) (root ++ "/")
  | elsewhere {root path : String} : root ≠ "" → (∀ rest, path ≠ root ++ "/" ++ rest) → Front (some root) path ""

/-- A front is cut between two components. -/
theorem Front.eq_empty_or (h : Front root path front) : front = "" ∨ ∃ above, front = above ++ "/" := by
  cases h with
  | directory _ => exact .inr ⟨_, rfl⟩
  | alone _ => exact .inl rfl
  | kept => exact .inl rfl
  | below _ => exact .inr ⟨_, rfl⟩
  | elsewhere _ _ => exact .inl rfl

theorem exists_last_separator {text : List Char} (h : '/' ∈ text) :
    ∃ before after, text = before ++ '/' :: after ∧ '/' ∉ after := by
  induction text with
  | nil => cases h
  | cons c rest ih =>
    by_cases hrest : '/' ∈ rest
    · obtain ⟨before, after, rfl, hafter⟩ := ih hrest
      exact ⟨c :: before, after, rfl, hafter⟩
    · obtain rfl := (List.mem_cons.mp h).resolve_right hrest
      exact ⟨[], rest, rfl, hrest⟩

theorem exists_front (root : Option String) (path : String) : ∃ front, Front root path front := by
  cases root with
  | none =>
    by_cases hslash : '/' ∈ path.toList
    · obtain ⟨before, after, hpath, hafter⟩ := exists_last_separator hslash
      have hwhole : path = String.ofList before ++ "/" ++ String.ofList after := by
        rw [← String.toList_inj, hpath]
        simp
      rw [hwhole]
      exact ⟨_, .directory (by simpa using hafter)⟩
    · exact ⟨_, .alone hslash⟩
  | some root =>
    by_cases hroot : root = ""
    · rw [hroot]
      exact ⟨_, .kept⟩
    · by_cases hbelow : ∃ rest, path = root ++ "/" ++ rest
      · obtain ⟨rest, rfl⟩ := hbelow
        exact ⟨_, .below hroot⟩
      · exact ⟨_, .elsewhere hroot (not_exists.mp hbelow)⟩

/-- What the root leaves of a path is what is behind its front. -/
theorem Front.append_belowRoot (h : Front root path front) :
    front ++ String.ofList (belowRoot root path.toList) = path := by
  cases h with
  | @directory above rest hbare =>
    have hpath : (above ++ "/" ++ rest).toList = above.toList ++ '/' :: rest.toList := by simp
    rw [belowRoot, hpath, baseNameChars_append _ hbare, String.ofList_toList]
  | alone hbare =>
    rw [belowRoot, baseNameChars_of_not_mem hbare, String.ofList_toList]
    exact String.empty_append
  | kept =>
    show "" ++ String.ofList path.toList = path
    rw [String.ofList_toList, String.empty_append]
  | below hroot => rw [belowRoot_append hroot, String.ofList_toList]
  | @elsewhere root path hroot helsewhere =>
    have hlead : root.toList ≠ [] := by simpa using hroot
    have hnone : dropLeading (root.toList ++ ['/']) path.toList = none := by
      rw [Option.eq_none_iff_forall_ne_some]
      intro rest hrest
      apply helsewhere (String.ofList rest)
      rw [← String.toList_inj, dropLeading_eq_some_iff.mp hrest]
      simp
    rw [belowRoot]
    split
    next hnil => exact absurd hnil hlead
    next => rw [hnone, Option.getD_none, String.ofList_toList, String.empty_append]

/-! ### The ending -/

/-- The ending that comes off a text: the longest entry of a list that ends it after a dot, or nothing. -/
inductive Ending (entries : List (List Char)) (text : String) : String → Prop where
  | longest {extension : List Char} : extension ∈ entries → '.' :: extension <:+ text.toList →
      (∀ other ∈ entries, '.' :: other <:+ text.toList → other.length ≤ extension.length) →
      Ending entries text ("." ++ String.ofList extension)
  | none : (∀ extension ∈ entries, ¬('.' :: extension <:+ text.toList)) → Ending entries text ""

theorem exists_ending (pattern : ExtensionPattern) (text : String) :
    ∃ ending, Ending pattern.extensions text ending ∧ text = pattern.strip text ++ ending := by
  cases hmatch : pattern.isMatch text with
  | true =>
    obtain ⟨extension, hcuts⟩ := ExtensionPattern.cuts_of_isMatch hmatch
    refine ⟨_, .longest hcuts.entry ?_ hcuts.longest, ?_⟩
    · rw [hcuts.whole]
      simp
    · rw [← String.append_assoc]
      exact hcuts.whole
  | false =>
    refine ⟨"", .none ?_, ?_⟩
    · intro extension hentry hsuffix
      have hends := ExtensionPattern.endsText_iff.mpr ⟨extension, hentry, hsuffix⟩
      exact Bool.noConfusion (hmatch.symm.trans hends)
    · rw [ExtensionPattern.strip, ExtensionPattern.stem_of_endsText_eq_false hmatch, String.ofList_toList,
        String.append_empty]

/-! ### Either cut first -/

/-- An extension without a separator is looked for behind the front only. -/
theorem Front.strip_append (hbare : ∀ e ∈ pattern.extensions, '/' ∉ e) (h : Front root (front ++ rest) front) :
    pattern.strip (front ++ rest) = front ++ pattern.strip rest := by
  rcases h.eq_empty_or with rfl | ⟨above, rfl⟩
  · rw [String.empty_append, String.empty_append]
  · have hpath : (above ++ "/" ++ rest).toList = above.toList ++ '/' :: rest.toList := by simp
    rw [← String.toList_inj, ExtensionPattern.strip, hpath, ExtensionPattern.stem_append hbare]
    simp [ExtensionPattern.strip]

/-- A path has the front that it had if what is behind loses its extension. -/
theorem Front.strip (pattern : ExtensionPattern) (h : Front root path front) (hpath : path = front ++ rest) :
    Front root (front ++ pattern.strip rest) front := by
  cases h with
  | directory hrest =>
    obtain rfl := String.append_right_inj _ |>.mp hpath
    exact .directory (ExtensionPattern.strip_bare hrest)
  | alone hrest =>
    rw [String.empty_append] at hpath ⊢
    exact .alone (ExtensionPattern.strip_bare (hpath ▸ hrest))
  | kept => exact .kept
  | below hroot => exact .below hroot
  | elsewhere hroot helsewhere =>
    rw [String.empty_append] at hpath ⊢
    refine .elsewhere hroot fun more hmore => ?_
    obtain ⟨ending, _, hending⟩ := exists_ending pattern rest
    apply helsewhere (more ++ ending)
    rw [hpath, hending, hmore, String.append_assoc]

/-- **The parts of a path.** A path is a front, the name of its template and an ending. The front is settled by
the root and ends where a component does. The ending is the longest extension of what is behind the front, or
nothing if that has none. Where no extension has a separator in it, the ending may come off first: that leaves
a path with the same front, and behind it the name. -/
theorem name_parts {list : String} (hpattern : ExtensionPattern.ofList list = .ok pattern) (path : String)
    (root : Option String) :
    ∃ front ending, path = front ++ resolveName path root pattern ++ ending ∧
      Front root path front ∧ (front = "" ∨ ∃ above, front = above ++ "/") ∧
      Ending (entries list) (resolveName path root pattern ++ ending) ending ∧
      ((∀ e ∈ entries list, '/' ∉ e) →
        Front root (pattern.strip path) front ∧
        pattern.strip path = front ++ resolveName path root pattern ∧
        String.ofList (belowRoot root (pattern.strip path).toList) = resolveName path root pattern) := by
  have hentries : pattern.extensions = entries list := ExtensionPattern.extensions_of_ofList hpattern
  obtain ⟨front, hfront⟩ := exists_front root path
  obtain ⟨rest, hrest⟩ : ∃ rest, String.ofList (belowRoot root path.toList) = rest := ⟨_, rfl⟩
  have hname : resolveName path root pattern = pattern.strip rest := by
    rw [resolveName, ExtensionPattern.strip, ← hrest, String.toList_ofList]
  have hpath : path = front ++ rest := by rw [← hrest, hfront.append_belowRoot]
  obtain ⟨ending, hending, hcut⟩ := exists_ending pattern rest
  rw [hname]
  refine ⟨front, ending, ?_, hfront, hfront.eq_empty_or, ?_, fun hbare => ?_⟩
  · rw [String.append_assoc, ← hcut]
    exact hpath
  · rw [← hcut, ← hentries]
    exact hending
  · rw [← hentries] at hbare
    have hstrip : pattern.strip path = front ++ pattern.strip rest := by
      rw [hpath] at hfront ⊢
      exact hfront.strip_append hbare
    have hsame := hfront.strip pattern hpath
    have hbelow := hsame.append_belowRoot
    rw [hstrip]
    exact ⟨hsame, rfl, String.append_right_inj _ |>.mp hbelow⟩

/-- The root ends in a separator, and the file is called after its extension alone. -/
theorem name_parts_nameless :
    ∃ front ending, "a//.hbs" = front ++ resolveName "a//.hbs" (some "a/") Sample.pattern ++ ending ∧
      Front (some "a/") "a//.hbs" front ∧ Sample.pattern.strip "a//.hbs" = front ∧ front = "a//" := by
  have hbare : ∀ e ∈ entries "handlebars|hbs", '/' ∉ e := by decide
  have hname : resolveName "a//.hbs" (some "a/") Sample.pattern = "" := by decide +kernel
  have hstrip : Sample.pattern.strip "a//.hbs" = "a//" := by decide +kernel
  obtain ⟨front, ending, hpath, hfront, _, _, hfirst⟩ :=
    name_parts Sample.extensionPattern_options "a//.hbs" (some "a/")
  obtain ⟨_, hfirst, _⟩ := hfirst hbare
  rw [hname, String.append_empty] at hfirst
  exact ⟨front, ending, hpath, hfront, hfirst, hfirst.symm.trans hstrip⟩

end Precompiler
