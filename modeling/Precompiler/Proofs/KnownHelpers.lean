import Precompiler.Batch
import Precompiler.Proofs.Charsets
import Precompiler.Proofs.Sample

/-! Known helpers.

Whoever sets the known helpers lists their names in any order, and perhaps one of them twice. The engine gets
them in one form: there is a field for each name, which maps it to `true`, and the fields stand in the order of
the names' bytes (`MakesKnown`). Names come into this form one at a time, each where the order puts it
(`insertName_increasing`), and a form like that is settled by the set of the names (`MakesKnown.eq`). So lists
of the same names are one to the engine, and make the same batch (`known_canonical`). -/
namespace Precompiler

variable {name other : String} {names known others : List String}

/-! ### Inserting names -/

theorem mem_insertName : other ∈ insertName name names ↔ other = name ∨ other ∈ names := by
  induction names with
  | nil => simp [insertName]
  | cons next rest ih =>
    rw [insertName]
    split
    next heq => simp [heq]
    next =>
      split
      next => rw [List.mem_cons]
      next => rw [List.mem_cons, ih, List.mem_cons, or_left_comm]

/-- A name is inserted where the order puts it. -/
theorem insertName_increasing (h : names.Pairwise (· < ·)) : (insertName name names).Pairwise (· < ·) := by
  induction names with
  | nil => exact List.pairwise_singleton ..
  | cons next rest ih =>
    obtain ⟨hnext, hrest⟩ := List.pairwise_cons.mp h
    rw [insertName]
    split
    next => exact h
    next hne =>
      split
      next hlt =>
        apply List.pairwise_cons.mpr
        refine ⟨?_, h⟩
        intro later hlater
        rcases List.mem_cons.mp hlater with rfl | hlater
        · exact hlt
        · exact Std.lt_trans hlt (hnext later hlater)
      next hnot =>
        have hgt : next < name := Std.lt_of_le_of_ne (Std.not_lt.mp hnot) (Ne.symm hne)
        apply List.pairwise_cons.mpr
        refine ⟨?_, ih hrest⟩
        intro later hlater
        rcases mem_insertName.mp hlater with rfl | hlater
        · exact hgt
        · exact hnext later hlater

namespace CompilerOptions

theorem mem_knownHelpers {only : Bool} : name ∈ (of known only).knownHelpers ↔ name ∈ known := by
  induction known with
  | nil => exact Iff.rfl
  | cons first rest ih =>
    show name ∈ insertName first (of rest only).knownHelpers ↔ _
    rw [mem_insertName, ih, List.mem_cons]

theorem knownHelpers_increasing (known : List String) (only : Bool) :
    (of known only).knownHelpers.Pairwise (· < ·) := by
  induction known with
  | nil => exact .nil
  | cons first rest ih => exact insertName_increasing ih

/-! ### The form that the engine gets -/

/-- Fields make helpers known: they map just the names of these to `true`, and they stand in the order of the
names' bytes, none of them twice. -/
structure MakesKnown (known : List String) (fields : List (String × Json)) : Prop where
  mem_iff : ∀ name value, (name, value) ∈ fields ↔ name ∈ known ∧ value = .bool true
  increasing : fields.Pairwise fun field next => Text.bytesOf field.1 < Text.bytesOf next.1

variable {fields more : List (String × Json)}

theorem MakesKnown.nodup (h : MakesKnown known fields) : fields.Nodup := by
  refine h.increasing.imp ?_
  rintro field _ hlt rfl
  exact absurd hlt Std.lt_irrefl

/-- The fields are settled by the set of the names. -/
theorem MakesKnown.eq (h : MakesKnown known fields) (hmore : MakesKnown others more)
    (hsame : ∀ name, name ∈ others ↔ name ∈ known) : more = fields := by
  have hperm : more.Perm fields := by
    apply (List.perm_ext_iff_of_nodup hmore.nodup h.nodup).mpr
    intro ⟨name, value⟩
    rw [hmore.mem_iff, h.mem_iff, hsame]
  refine hperm.eq_of_pairwise (fun field next _ _ hlt hgt => ?_) hmore.increasing h.increasing
  exact absurd (Std.lt_trans hlt hgt) Std.lt_irrefl

theorem makesKnown_of (known : List String) (only : Bool) :
    MakesKnown known ((of known only).knownHelpers.map (·, .bool true)) := by
  constructor
  · intro name value
    simp only [List.mem_map, mem_knownHelpers, Prod.mk.injEq]
    constructor
    · rintro ⟨_, hname, rfl, rfl⟩
      exact ⟨hname, rfl⟩
    · rintro ⟨hname, rfl⟩
      exact ⟨name, hname, rfl, rfl⟩
  · exact List.pairwise_map.mpr ((knownHelpers_increasing known only).imp bytesOf_lt)

theorem of_congr (hsame : ∀ name, name ∈ others ↔ name ∈ known) (only : Bool) :
    of others only = of known only := by
  have hfields := (makesKnown_of known only).eq (makesKnown_of others only) hsame
  have hnames := congrArg (List.map Prod.fst) hfields
  simp only [List.map_map, Function.comp_def, List.map_id'] at hnames
  rw [CompilerOptions.mk.injEq]
  exact ⟨hnames, rfl⟩

end CompilerOptions

/-! ### Batches with other lists -/

section SameNames

variable {engine : Engine} {options : Options} (hsame : ∀ name, name ∈ others ↔ name ∈ options.known)
include hsame

/-- A template takes no notice of how the helpers have been listed. -/
theorem compileTemplate_congr (setup : Setup) (input : Path) (output : Option Path) :
    compileTemplate engine {options with known := others} setup input output =
      compileTemplate engine options setup input output := by
  have htold : Options.compilerOptions {options with known := others} = options.compilerOptions :=
    CompilerOptions.of_congr hsame options.knownOnly
  unfold compileTemplate
  rw [htold]
  rfl

/-- Nor does a batch. -/
theorem compileBatch_congr [Glob.Joining] (batch : Batch) :
    compileBatch engine batch {options with known := others} = compileBatch engine batch options := by
  unfold compileBatch
  simp only [compileTemplate_congr hsame]
  rfl

end SameNames

/-- **Known helpers are canonical.** Whatever list the names of the known helpers come in, the engine is told of
them by the one row of fields that makes them known: each name once, mapped to `true`, in the order of the bytes.
A list of the same names, in whatever order and with whatever repetitions, gives the same options. With them
every source comes to the same with every engine, and so does every batch. -/
theorem CompilerOptions.known_canonical [Glob.Joining] (known : List String) (only : Bool) :
    (∃ fields,
      (of known only).toJson = .obj [("knownHelpers", .obj fields), ("knownHelpersOnly", .bool only)] ∧
        ∀ other, MakesKnown known other ↔ other = fields) ∧
    ∀ others : List String, (∀ name, name ∈ others ↔ name ∈ known) →
      of others only = of known only ∧
      (∀ engine file source hook,
        compileSource engine file source hook (of others only) =
          compileSource engine file source hook (of known only)) ∧
      ∀ engine batch (options : Options),
        compileBatch engine batch {options with known := others, knownOnly := only} =
          compileBatch engine batch {options with known := known, knownOnly := only} := by
  have hform := makesKnown_of known only
  refine ⟨⟨_, rfl, fun other => ?_⟩, fun others hsame => ?_⟩
  · constructor
    · intro hother
      exact hform.eq hother fun _ => Iff.rfl
    · rintro rfl
      exact hform
  · have hoptions := of_congr hsame only
    refine ⟨hoptions, fun engine file source hook => by rw [hoptions], fun engine batch options => ?_⟩
    have hlisted : ∀ name, name ∈ others ↔ name ∈ ({options with known := known, knownOnly := only} : Options).known :=
      hsame
    exact compileBatch_congr hlisted batch

/-- Names in an order of their own, one of them twice. -/
theorem CompilerOptions.known_canonical_shuffled :
    of ["über", "t", "link", "t"] true = of ["link", "über", "t"] true ∧
      (of ["über", "t", "link", "t"] true).knownHelpers = ["link", "t", "über"] := by
  have hsame : ∀ name, name ∈ ["über", "t", "link", "t"] ↔ name ∈ ["link", "über", "t"] := by
    intro name
    simp only [List.mem_cons, List.not_mem_nil]
    grind
  obtain ⟨_, hothers⟩ := known_canonical ["link", "über", "t"] true
  exact ⟨(hothers _ hsame).1, by decide +kernel⟩

end Precompiler
