/-! File trees.

A tree is a list of entries, each under its location: the names that lead to it from the
root. The order of the list is the order in which a directory lists its entries, which
nothing may depend on. Everything else is said through one view, `get?`: what stands at
a location. `put` and `erase` are described by how they change that view, and the two
together restore it (`erase_put`). -/
namespace Precompiler

/-- The names that lead to an entry from the root. -/
abbrev Location := List String

/-- Contents are the same if their bytes are. -/
instance decidableEqContent : DecidableEq ByteArray := fun a b =>
  decidable_of_iff (a.data = b.data) ByteArray.ext_iff.symm

/-- What can stand at a location. -/
inductive Entry where
  | file (content : ByteArray) (executable : Bool)
  /-- Another name for the path that is its target. -/
  | link (target : String)
  /-- A sealed directory takes no new entries. -/
  | directory (isSealed : Bool)
  deriving DecidableEq, Inhabited

namespace Entry

def isFile : Entry → Bool
  | file .. => true
  | _ => false

def isDirectory : Entry → Bool
  | directory _ => true
  | _ => false

end Entry

/-- The entries of a file system; the root directory is always there. -/
structure FileTree where
  entries : List (Location × Entry)
  deriving DecidableEq, Inhabited

namespace FileTree

/-- Nothing but the root. -/
def empty : FileTree := ⟨[]⟩

/-- What stands at a location. -/
def get? (tree : FileTree) (spot : Location) : Option Entry :=
  if spot = [] then some (.directory false) else tree.entries.lookup spot

/-- Entries with one of them replaced, or added at the end. -/
def putIn (spot : Location) (entry : Entry) : List (Location × Entry) → List (Location × Entry)
  | [] => [(spot, entry)]
  | (l, e) :: rest => if l = spot then (spot, entry) :: rest else (l, e) :: putIn spot entry rest

/-- The tree with an entry at a location, whatever stood there. -/
def put (tree : FileTree) (spot : Location) (entry : Entry) : FileTree :=
  ⟨putIn spot entry tree.entries⟩

/-- The tree without what stands at a location. -/
def erase (tree : FileTree) (spot : Location) : FileTree :=
  ⟨tree.entries.filter fun e => e.1 ≠ spot⟩

/-- The tree without a location and everything below it. -/
def eraseBelow (tree : FileTree) (spot : Location) : FileTree :=
  ⟨tree.entries.filter fun e => !spot.isPrefixOf e.1⟩

/-- The name of an entry that stands directly in a directory. -/
def nameIn (directory : Location) (spot : Location) : Option String :=
  match spot.getLast? with
  | some name => if spot.dropLast = directory then some name else none
  | none => none

/-- A directory's entries in the order in which it lists them. -/
def listing (tree : FileTree) (directory : Location) : List (String × Entry) :=
  tree.entries.filterMap fun (spot, entry) => (nameIn directory spot).map (·, entry)

/-- More than the length of every location. -/
def height (tree : FileTree) : Nat :=
  tree.entries.foldl (fun n e => max n (e.1.length + 1)) 1

/-! ### How the view changes -/

theorem lookup_putIn (spot l : Location) (entry : Entry) (entries : List (Location × Entry)) :
    (putIn spot entry entries).lookup l = if l = spot then some entry else entries.lookup l := by
  induction entries with
  | nil =>
    by_cases h : l = spot
    · simp [putIn, h]
    · have hb : (l == spot) = false := by simpa using h
      simp [putIn, List.lookup_cons, h, hb]
  | cons head rest ih =>
    obtain ⟨k, e⟩ := head
    by_cases hk : k = spot
    · by_cases h : l = spot
      · simp [putIn, hk, h]
      · have hb : (l == spot) = false := by simpa using h
        simp [putIn, List.lookup_cons, hk, h, hb]
    · by_cases hl : l = k
      · subst hl
        simp [putIn, hk]
      · have hb : (l == k) = false := by simpa using hl
        simp [putIn, List.lookup_cons, hk, hb, ih]

theorem get?_put (tree : FileTree) (spot l : Location) (entry : Entry) (h : spot ≠ []) :
    (tree.put spot entry).get? l = if l = spot then some entry else tree.get? l := by
  unfold get? put
  by_cases hl : l = []
  · subst hl
    simp [Ne.symm h]
  · simp [hl, lookup_putIn]

theorem lookup_filter_ne (spot l : Location) (entries : List (Location × Entry)) :
    (entries.filter fun e => e.1 ≠ spot).lookup l =
      if l = spot then none else entries.lookup l := by
  induction entries with
  | nil => simp
  | cons head rest ih =>
    obtain ⟨k, e⟩ := head
    by_cases hk : k = spot
    · rw [List.filter_cons_of_neg (by simp [hk]), ih]
      by_cases hl : l = spot
      · simp [hl]
      · have hb : (l == k) = false := by simpa [hk] using hl
        simp [hl, List.lookup_cons, hb]
    · rw [List.filter_cons_of_pos (by simp [hk])]
      by_cases hl : l = k
      · subst hl
        simp [hk]
      · have hb : (l == k) = false := by simpa using hl
        simp only [List.lookup_cons, hb]
        exact ih

theorem get?_erase (tree : FileTree) (spot l : Location) (h : spot ≠ []) :
    (tree.erase spot).get? l = if l = spot then none else tree.get? l := by
  unfold get? erase
  by_cases hl : l = []
  · subst hl
    simp [Ne.symm h]
  · simp only [hl, ↓reduceIte]
    exact lookup_filter_ne spot l tree.entries

theorem filter_putIn_of_lookup_none (spot : Location) (entry : Entry)
    (entries : List (Location × Entry)) (h : entries.lookup spot = none) :
    (putIn spot entry entries).filter (fun e => e.1 ≠ spot) = entries := by
  induction entries with
  | nil => simp [putIn]
  | cons head rest ih =>
    obtain ⟨k, e⟩ := head
    have hk : spot ≠ k := by
      intro hk
      simp [hk] at h
    have hb : (spot == k) = false := by simpa using hk
    have hrest : rest.lookup spot = none := by simpa [List.lookup_cons, hb] using h
    simpa [putIn, Ne.symm hk] using ih hrest

/-- What is put at a free location and taken away again leaves no trace, not even in the
order of the listing. -/
theorem erase_put (tree : FileTree) (spot : Location) (entry : Entry)
    (h : tree.get? spot = none) : (tree.put spot entry).erase spot = tree := by
  have hne : spot ≠ [] := by
    intro hnil
    simp [get?, hnil] at h
  simp only [get?, hne, ↓reduceIte] at h
  show FileTree.mk _ = tree
  exact congrArg FileTree.mk (filter_putIn_of_lookup_none spot entry tree.entries h)

end FileTree

end Precompiler
