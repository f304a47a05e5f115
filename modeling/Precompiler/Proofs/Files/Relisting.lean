import Precompiler.Files.Write
import Precompiler.Proofs.Files.Walk

/-! Files listed in another order.

The order in which a directory lists its entries is that of the entries of the tree, and two trees may have the
same entries in different orders (`Files.Relisted`). They show the same everywhere, so paths lead to the same
places, and a walk, which sorts what it lists, takes the same steps. What is put into both, or taken away from
both, leaves them the same but for the order. So replacing a file does, since the name of its temporary file
comes from the longest name there is (`Files.Relisted.replaceFile`). -/
namespace Precompiler

namespace FileTree

variable {tree other : FileTree} {entries others : List (Location × Entry)} {spot : Location} {entry : Entry}

theorem lookup_perm (honce : (entries.map (·.1)).Nodup) (h : others.Perm entries) (spot : Location) :
    others.lookup spot = entries.lookup spot := by
  have honce' : (others.map (·.1)).Nodup := (h.map _).nodup_iff.mpr honce
  refine Option.ext fun entry => ⟨fun hlookup => ?_, fun hlookup => ?_⟩
  · exact lookup_of_mem honce (h.mem_iff.mp (mem_of_lookup hlookup))
  · exact lookup_of_mem honce' (h.mem_iff.mpr (mem_of_lookup hlookup))

/-- Up to their order, entries with one that is put are that one and those elsewhere. -/
theorem putIn_perm (honce : (entries.map (·.1)).Nodup) (spot : Location) (entry : Entry) :
    (putIn spot entry entries).Perm ((spot, entry) :: entries.filter fun e => e.1 ≠ spot) := by
  induction entries with
  | nil => exact .refl _
  | cons head rest ih =>
    obtain ⟨l, e⟩ := head
    obtain ⟨hfirst, hrest⟩ := List.nodup_cons.mp honce
    by_cases hl : l = spot
    · subst hl
      have hkept : rest.filter (fun e => e.1 ≠ l) = rest := by
        refine List.filter_eq_self.mpr fun other hother => decide_eq_true fun heq => ?_
        have hmem : other.1 ∈ rest.map (·.1) := List.mem_map_of_mem hother
        rw [heq] at hmem
        exact hfirst hmem
      rw [putIn, if_pos rfl, List.filter_cons_of_neg (by simp), hkept]
    · rw [putIn, if_neg hl, List.filter_cons_of_pos (by simpa using hl)]
      exact ((ih hrest).cons _).trans (.swap ..)

theorem longestName_perm (h : others.Perm entries) : Files.longestName others = Files.longestName entries := by
  induction h with
  | nil => rfl
  | cons _ _ ih => rw [Files.longestName, Files.longestName, ih]
  | swap => exact Nat.max_left_comm ..
  | trans _ _ ih ih' => exact ih.trans ih'

theorem trail_congr (hget : ∀ spot, other.get? spot = tree.get? spot) (followLast : Bool)
    (onLink : Location → Path → List String → Except PathFault Target) (spot : Location) (segments : List String) :
    other.trail followLast onLink spot segments = tree.trail followLast onLink spot segments := by
  induction segments generalizing spot with
  | nil => rw [trail, trail, hget]
  | cons segment rest ih => simp only [trail, hget, ih]

theorem follow_congr (hget : ∀ spot, other.get? spot = tree.get? spot) (followLast : Bool) (n : Nat) :
    other.follow followLast n = tree.follow followLast n := by
  induction n with
  | zero =>
    funext spot segments
    exact trail_congr hget ..
  | succ n ih =>
    funext spot segments
    rw [follow, follow, ih]
    exact trail_congr hget ..

/-- What is sorted does not depend on the order in which it was listed. -/
theorem sortedListing_perm (honce : (tree.entries.map (·.1)).Nodup) (h : other.entries.Perm tree.entries)
    (spot : Location) : other.sortedListing spot = tree.sortedListing spot := by
  have honce' : (other.entries.map (·.1)).Nodup := (h.map _).nodup_iff.mpr honce
  have hlisting : (other.listing spot).Perm (tree.listing spot) := h.filterMap _
  have hperm : (other.sortedListing spot).Perm (tree.sortedListing spot) :=
    (List.mergeSort_perm _ _).trans (hlisting.trans (List.mergeSort_perm _ _).symm)
  refine hperm.eq_of_pairwise (fun a b _ _ hab hba => ?_) (sortedListing_increasing honce' spot)
    (sortedListing_increasing honce spot)
  exact absurd (Std.lt_trans hab hba) Std.lt_irrefl

theorem walk_perm (honce : (tree.entries.map (·.1)).Nodup) (h : other.entries.Perm tree.entries)
    (spot : Location) (path : Path) : other.walk spot path = tree.walk spot path := by
  have hwithin : ∀ n spot path names, other.walkWithin n spot path names = tree.walkWithin n spot path names := by
    intro n
    induction n with
    | zero => exact fun _ _ _ => rfl
    | succ n ih =>
      intro spot path names
      simp only [walkWithin, sortedListing_perm honce h, ih]
  have hheight : other.height = tree.height :=
    h.foldl_eq' (fun e _ e' _ n => by omega) 1
  rw [walk, walk, hheight, hwithin]

end FileTree

namespace Files

/-- Other files that are the same but for the order in which directories list their entries. -/
structure Relisted (files other : Files) : Prop where
  here : other.here = files.here
  entries : other.tree.entries.Perm files.tree.entries
  once : (files.tree.entries.map (·.1)).Nodup

namespace Relisted

variable {files other : Files}

/-! ### Looking at files -/

theorem get? (h : files.Relisted other) (spot : Location) : other.tree.get? spot = files.tree.get? spot := by
  unfold FileTree.get?
  rw [FileTree.lookup_perm h.once h.entries]

theorem resolve (h : files.Relisted other) (path : Path) (followLast : Bool) :
    other.resolve path followLast = files.resolve path followLast := by
  unfold Files.resolve
  rw [h.here, FileTree.follow_congr h.get?]

theorem find? (h : files.Relisted other) (path : Path) : other.find? path = files.find? path := by
  unfold Files.find?
  rw [h.resolve]

theorem read? (h : files.Relisted other) (path : Path) : other.read? path = files.read? path := by
  unfold Files.read?
  rw [h.find?]

theorem isDirectory (h : files.Relisted other) (path : Path) : other.isDirectory path = files.isDirectory path := by
  unfold Files.isDirectory
  rw [h.find?]

theorem isOpen (h : files.Relisted other) (spot : Location) : other.isOpen spot = files.isOpen spot := by
  unfold Files.isOpen
  rw [h.get?]

theorem freshName (h : files.Relisted other) : other.freshName = files.freshName := by
  unfold Files.freshName
  rw [FileTree.longestName_perm h.entries]

/-! ### Changing files -/

theorem put (h : files.Relisted other) (spot : Location) (entry : Entry) :
    (files.put spot entry).Relisted (other.put spot entry) where
  here := h.here
  entries := by
    have honce' : (other.tree.entries.map (·.1)).Nodup := (h.entries.map _).nodup_iff.mpr h.once
    exact (FileTree.putIn_perm honce' spot entry).trans
      (((h.entries.filter _).cons _).trans (FileTree.putIn_perm h.once spot entry).symm)
  once := by
    have hnew : spot ∉ (files.tree.entries.filter fun e => e.1 ≠ spot).map (·.1) := by simp
    refine (((FileTree.putIn_perm h.once spot entry).map _).nodup_iff).mpr (List.nodup_cons.mpr ⟨hnew, ?_⟩)
    exact h.once.sublist (List.filter_sublist.map _)

theorem erase (h : files.Relisted other) (spot : Location) : (files.erase spot).Relisted (other.erase spot) where
  here := h.here
  entries := h.entries.filter _
  once := h.once.sublist (List.filter_sublist.map _)

/-- Two changes of files that both fail alike, or both give the same files but for the order. -/
inductive Both : Except PathFault Files → Except PathFault Files → Prop where
  | fault (fault : PathFault) : Both (.error fault) (.error fault)
  | done {files other : Files} : files.Relisted other → Both (.ok files) (.ok other)

theorem makeDirectory (h : files.Relisted other) (path : Path) :
    Both (files.makeDirectory path) (other.makeDirectory path) := by
  unfold Files.makeDirectory
  rw [h.resolve]
  rcases files.resolve path.dropEndSeparators false with fault | (⟨spot, entry⟩ | ⟨spot, name⟩)
  · exact .fault fault
  · exact .fault .occupied
  · dsimp only
    rw [h.isOpen]
    split
    · exact .done (h.put _ _)
    · exact .fault .isSealed

theorem ensureDirectory (h : files.Relisted other) (path : Path) :
    Both (files.ensureDirectory path) (other.ensureDirectory path) := by
  have hmade := h.makeDirectory path
  unfold Files.ensureDirectory
  generalize files.makeDirectory path = made at hmade
  generalize other.makeDirectory path = made' at hmade
  rw [h.isDirectory]
  cases hmade with
  | done hdone => exact .done hdone
  | fault fault =>
    cases fault with
    | occupied =>
      dsimp only
      split
      · exact .done h
      · exact .fault .occupied
    | _ => exact .fault _

/-- What is left of making directories, and whether it has come to its end. -/
theorem makeChain (h : files.Relisted other) (paths : List Path) :
    (files.makeChain paths).1.Relisted (other.makeChain paths).1 ∧
      (other.makeChain paths).2 = (files.makeChain paths).2 := by
  induction paths with
  | nil => exact ⟨h, rfl⟩
  | cons path above ih =>
    have hmade := h.ensureDirectory path
    unfold Files.makeChain
    generalize files.ensureDirectory path = made at hmade
    generalize other.ensureDirectory path = made' at hmade
    split
    · exact ⟨h, rfl⟩
    cases hmade with
    | done hdone => exact ⟨hdone, rfl⟩
    | fault fault =>
      cases fault with
      | missing =>
        dsimp only
        obtain ⟨habove, hresult⟩ := ih
        generalize files.makeChain above = chain at habove hresult
        generalize other.makeChain above = chain' at habove hresult
        obtain ⟨left, result⟩ := chain
        obtain ⟨left', result'⟩ := chain'
        subst hresult
        rcases result' with fault | _
        · exact ⟨habove, rfl⟩
        · have hall := habove.ensureDirectory path
          dsimp only at hall ⊢
          generalize left.ensureDirectory path = all at hall
          generalize left'.ensureDirectory path = all' at hall
          cases hall with
          | done hdone => exact ⟨hdone, rfl⟩
          | fault fault => exact ⟨habove, rfl⟩
      | _ => exact ⟨h, rfl⟩

theorem rename (h : files.Relisted other) (spot : Location) (content : ByteArray) (path : Path) :
    Both (files.rename spot content path) (other.rename spot content path) := by
  unfold Files.rename
  rw [h.resolve]
  split
  · exact .fault .occupied
  rcases files.resolve path false with fault | (⟨goal, entry⟩ | ⟨directory, name⟩)
  · exact .fault fault
  · cases entry with
    | directory s => exact .fault .occupied
    | file _ _ => exact .done ((h.erase spot).put _ _)
    | link _ => exact .done ((h.erase spot).put _ _)
  · dsimp only
    rw [h.isOpen]
    split
    · exact .done ((h.erase spot).put _ _)
    · exact .fault .isSealed

/-- A file is replaced in both, or in neither and for the same reason. -/
theorem replaceFile (h : files.Relisted other) (directory path : Path) (content : ByteArray) :
    (files.replaceFile directory path content).1.Relisted (other.replaceFile directory path content).1 ∧
      (other.replaceFile directory path content).2 = (files.replaceFile directory path content).2 := by
  unfold Files.replaceFile
  rw [h.find?, h.freshName]
  split
  next spot _ =>
    have hwritten := h.put (spot ++ [files.freshName]) (.file content false)
    have hdone := hwritten.rename (spot ++ [files.freshName]) content path
    dsimp only
    generalize (files.put (spot ++ [files.freshName]) (.file content false)).rename _ content path = done at hdone
    generalize (other.put (spot ++ [files.freshName]) (.file content false)).rename _ content path = done' at hdone
    cases hdone with
    | done hdone => exact ⟨hdone, rfl⟩
    | fault fault => exact ⟨hwritten.erase _, rfl⟩
  next => exact ⟨h, rfl⟩

end Relisted

end Files

end Precompiler
