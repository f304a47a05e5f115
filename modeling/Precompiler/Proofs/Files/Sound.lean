import Precompiler.Proofs.Files.Resolve

/-! Sound file trees.

A list of entries can say what no file system holds: two entries at one location, a name with a
separator in it, an entry that stands in a file. A sound tree says nothing of the kind. So its
entries are what `get?` shows (`Sound.mem_iff`), everything above an entry is a directory
(`Sound.above`), and a tree is known by its locations and what stands at each of them
(`Sound.eq_of_get?`). An entry that is put into a directory leaves a sound tree sound
(`Sound.put`). -/
namespace Precompiler

instance decidableIsStep (segment : String) : Decidable (IsStep segment) :=
  decidable_of_iff (Path.isIdle segment = false ∧ segment ≠ ".." ∧
      segment.utf8ByteSize ≤ maxNameBytes)
    ⟨fun ⟨hspeaks, hup, hshort⟩ => ⟨hspeaks, hup, hshort⟩, fun h => ⟨h.speaks, h.notUp, h.short⟩⟩

/-- A name that an entry can have. -/
structure IsName (name : String) : Prop where
  step : IsStep name
  bare : '/' ∉ name.toList

instance decidableIsName (name : String) : Decidable (IsName name) :=
  decidable_of_iff (IsStep name ∧ '/' ∉ name.toList)
    ⟨fun ⟨hstep, hbare⟩ => ⟨hstep, hbare⟩, fun h => ⟨h.step, h.bare⟩⟩

namespace FileTree

/-- A directory stands at a location. -/
def HasDirectory (tree : FileTree) (spot : Location) : Prop :=
  ∃ s, tree.get? spot = some (.directory s)

instance decidableHasDirectory (tree : FileTree) (spot : Location) :
    Decidable (tree.HasDirectory spot) :=
  decidable_of_iff ((tree.get? spot).any Entry.isDirectory = true) (by
    unfold HasDirectory
    rcases tree.get? spot with _ | (_ | _ | _) <;> simp [Entry.isDirectory])

/-- A tree that a file system can hold: one entry at each location, and each under a proper name
in a directory. -/
structure Sound (tree : FileTree) : Prop where
  once : (tree.entries.map (·.1)).Nodup
  named : ∀ e ∈ tree.entries, ∃ name ∈ e.1.getLast?, IsName name ∧ tree.HasDirectory e.1.dropLast

instance decidableSound (tree : FileTree) : Decidable tree.Sound :=
  decidable_of_iff ((tree.entries.map (·.1)).Nodup ∧ ∀ e ∈ tree.entries,
      ∃ name ∈ e.1.getLast?, IsName name ∧ tree.HasDirectory e.1.dropLast)
    ⟨fun ⟨honce, hnamed⟩ => ⟨honce, hnamed⟩, fun h => ⟨h.once, h.named⟩⟩

variable {tree : FileTree} {spot directory : Location} {name : String} {entry : Entry}

theorem hasDirectory_root (tree : FileTree) : tree.HasDirectory [] := ⟨false, rfl⟩

/-! ### Entries and what is seen of them -/

theorem mem_of_lookup {entries : List (Location × Entry)} (h : entries.lookup spot = some entry) :
    (spot, entry) ∈ entries := by
  obtain ⟨before, after, rfl, _⟩ := List.lookup_eq_some_iff.mp h
  simp

theorem lookup_of_mem {entries : List (Location × Entry)} (honce : (entries.map (·.1)).Nodup)
    (h : (spot, entry) ∈ entries) : entries.lookup spot = some entry := by
  obtain ⟨before, after, rfl⟩ := List.append_of_mem h
  refine List.lookup_eq_some_iff.mpr ⟨before, after, rfl, fun e he => ?_⟩
  have hne : spot ≠ e.1 := by
    rintro rfl
    rw [List.map_append, List.map_cons, List.nodup_append] at honce
    exact honce.2.2 e.1 (List.mem_map_of_mem he) e.1 List.mem_cons_self rfl
  simpa using hne

theorem Sound.ne_nil (h : tree.Sound) {e : Location × Entry} (he : e ∈ tree.entries) : e.1 ≠ [] := by
  obtain ⟨name, hlast, _⟩ := h.named e he
  intro hnil
  simp [hnil] at hlast

/-- The entries of a sound tree are what it shows below the root. -/
theorem Sound.mem_iff (h : tree.Sound) :
    (spot, entry) ∈ tree.entries ↔ spot ≠ [] ∧ tree.get? spot = some entry := by
  unfold get?
  constructor
  · intro hmem
    have hne : spot ≠ [] := h.ne_nil hmem
    exact ⟨hne, by rw [if_neg hne]; exact lookup_of_mem h.once hmem⟩
  · rintro ⟨hne, hget⟩
    rw [if_neg hne] at hget
    exact mem_of_lookup hget

/-- What stands in a sound tree has a proper name and stands in a directory. -/
theorem Sound.parent (h : tree.Sound) (hget : tree.get? (directory ++ [name]) = some entry) :
    IsName name ∧ tree.HasDirectory directory := by
  have hmem := h.mem_iff.mpr ⟨by simp, hget⟩
  obtain ⟨name', hlast, hname, hdirectory⟩ := h.named _ hmem
  simp only [List.getLast?_concat, Option.mem_def, Option.some.injEq] at hlast
  rw [List.dropLast_concat] at hdirectory
  exact ⟨hlast ▸ hname, hdirectory⟩

/-- Below something in a sound tree there are proper names, and above it there are directories. -/
theorem Sound.above (h : tree.Sound) {names : List String}
    (hget : tree.get? (spot ++ names) = some entry) :
    (∀ name ∈ names, IsName name) ∧ (names ≠ [] → tree.HasDirectory spot) := by
  -- From the entry upwards: what is above it is an entry again, a directory.
  induction hlength : names.length generalizing names entry with
  | zero => simp [List.length_eq_zero_iff.mp hlength]
  | succ n ih =>
    rcases List.eq_nil_or_concat names with rfl | ⟨front, name, rfl⟩
    · simp at hlength
    · rw [List.concat_eq_append] at hget hlength ⊢
      rw [← List.append_assoc] at hget
      obtain ⟨hname, s, hdirectory⟩ := h.parent hget
      obtain ⟨hnames, habove⟩ := ih hdirectory (by simpa using hlength)
      refine ⟨fun other hother => ?_, fun _ => ?_⟩
      · rcases List.mem_append.mp hother with hfront | hlast
        · exact hnames other hfront
        · exact List.mem_singleton.mp hlast ▸ hname
      · by_cases hfront : front = []
        · rw [hfront, List.append_nil] at hdirectory
          exact ⟨s, hdirectory⟩
        · exact habove hfront

theorem Sound.dropLast (h : tree.Sound) (hspot : tree.HasDirectory spot) :
    tree.HasDirectory spot.dropLast := by
  rcases List.eq_nil_or_concat spot with rfl | ⟨front, name, rfl⟩
  · exact hspot
  · rw [List.concat_eq_append] at hspot ⊢
    obtain ⟨s, hget⟩ := hspot
    rw [List.dropLast_concat]
    exact (h.parent hget).2

/-- A tree that holds only files and directories is without links. -/
theorem linkless_of_entries (h : ∀ e ∈ tree.entries, (e.2.isFile || e.2.isDirectory) = true) :
    tree.Linkless := by
  intro spot path hget
  unfold get? at hget
  split at hget
  · cases hget
  · simpa [Entry.isFile, Entry.isDirectory] using h _ (mem_of_lookup hget)

/-! ### Putting an entry -/

theorem mem_putIn {entries : List (Location × Entry)} {e : Location × Entry}
    (h : e ∈ putIn spot entry entries) : e = (spot, entry) ∨ e ∈ entries := by
  induction entries with
  | nil => exact .inl (List.mem_singleton.mp h)
  | cons head rest ih =>
    rw [putIn] at h
    split at h
    · exact (List.mem_cons.mp h).imp_right (List.mem_cons_of_mem head)
    · rcases List.mem_cons.mp h with rfl | h
      · exact .inr List.mem_cons_self
      · exact (ih h).imp_right (List.mem_cons_of_mem head)

/-- A location is added to the others unless it is one of them. -/
theorem map_fst_putIn (spot : Location) (entry : Entry) (entries : List (Location × Entry)) :
    (putIn spot entry entries).map (·.1) =
      if spot ∈ entries.map (·.1) then entries.map (·.1) else entries.map (·.1) ++ [spot] := by
  induction entries with
  | nil => simp [putIn]
  | cons head rest ih =>
    obtain ⟨k, e⟩ := head
    by_cases hk : k = spot
    · simp [putIn, hk]
    · simp only [putIn, hk, if_false, List.map_cons, ih, List.mem_cons, Ne.symm hk, false_or]
      split <;> simp

/-- A sound tree stays sound if an entry is put into a directory and displaces no directory. -/
theorem Sound.put (h : tree.Sound) (hdirectory : tree.HasDirectory directory) (hname : IsName name)
    (hfree : ¬tree.HasDirectory (directory ++ [name])) (entry : Entry) :
    (tree.put (directory ++ [name]) entry).Sound where
  once := by
    show ((putIn _ entry tree.entries).map (·.1)).Nodup
    rw [map_fst_putIn]
    split
    · exact h.once
    next hnew =>
      refine List.nodup_append.mpr ⟨h.once, by simp, fun spot hspot other hother heq => ?_⟩
      rw [List.mem_singleton.mp hother] at heq
      exact hnew (heq ▸ hspot)
  named := by
    -- No directory has gone: what the entry displaces is none.
    have hkeep : ∀ spot, tree.HasDirectory spot →
        (tree.put (directory ++ [name]) entry).HasDirectory spot := by
      rintro spot ⟨s, hget⟩
      have hne : spot ≠ directory ++ [name] := fun heq => hfree (heq ▸ ⟨s, hget⟩)
      exact ⟨s, by rw [get?_put _ _ _ _ (by simp), if_neg hne, hget]⟩
    intro e he
    rcases mem_putIn he with rfl | he
    · exact ⟨name, by simp, hname, by simpa using hkeep directory hdirectory⟩
    · obtain ⟨other, hlast, hother, habove⟩ := h.named e he
      exact ⟨other, hlast, hother, hkeep _ habove⟩

/-! ### Knowing a tree -/

theorem eq_of_lookup {entries others : List (Location × Entry)}
    (hspots : others.map (·.1) = entries.map (·.1)) (honce : (entries.map (·.1)).Nodup)
    (hlookup : ∀ spot ∈ entries.map (·.1), others.lookup spot = entries.lookup spot) :
    others = entries := by
  induction entries generalizing others with
  | nil => simpa using hspots
  | cons head rest ih =>
    rcases others with _ | ⟨other, others⟩
    · simp at hspots
    · obtain ⟨k, e⟩ := head
      obtain ⟨k', e'⟩ := other
      simp only [List.map_cons, List.cons.injEq, List.nodup_cons] at hspots honce
      obtain ⟨rfl, hspots⟩ := hspots
      have hhead : e' = e := by simpa using hlookup k' (by simp)
      have hrest : others = rest := ih hspots honce.2 fun spot hspot => by
        have hne : (spot == k') = false := by
          simpa using fun heq : spot = k' => honce.1 (heq ▸ hspot)
        simpa [List.lookup_cons, hne] using hlookup spot (by simp [hspot])
      rw [hhead, hrest]

/-- A sound tree is known by its locations, in their order, and by what it shows. -/
theorem Sound.eq_of_get? (h : tree.Sound) {other : FileTree}
    (hspots : other.entries.map (·.1) = tree.entries.map (·.1))
    (hget : ∀ spot, other.get? spot = tree.get? spot) : other = tree := by
  have hentries : other.entries = tree.entries := eq_of_lookup hspots h.once fun spot hspot => by
    obtain ⟨e, he, rfl⟩ := List.mem_map.mp hspot
    simpa [get?, h.ne_nil he] using hget e.1
  cases other
  cases tree
  exact congrArg FileTree.mk hentries

end FileTree

namespace Files

/-- Files in a sound tree, seen from a directory. -/
structure Sound (files : Files) : Prop where
  tree : files.tree.Sound
  here : ∀ here ∈ files.here, files.tree.HasDirectory here

instance decidableSound (files : Files) : Decidable files.Sound :=
  decidable_of_iff (files.tree.Sound ∧ ∀ here ∈ files.here, files.tree.HasDirectory here)
    ⟨fun ⟨htree, hhere⟩ => ⟨htree, hhere⟩, fun h => ⟨h.tree, h.here⟩⟩

theorem Sound.start {files : Files} (h : files.Sound) {path : Path} {begin : Location}
    (hbegin : files.start path = some begin) : files.tree.HasDirectory begin := by
  unfold Files.start at hbegin
  split at hbegin
  · cases hbegin
    exact FileTree.hasDirectory_root _
  · exact h.here begin hbegin

end Files

end Precompiler
