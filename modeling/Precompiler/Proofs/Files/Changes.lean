import Precompiler.Proofs.Files.Resolve
import Precompiler.Proofs.Paths

/-! What writing does to files.

`Changes` relates the files before and after some contents have been put at locations: each
of these locations holds what was put there last and held no directory before, and nothing
else is different but for directories that are new. It composes (`Changes.trans`), so a
whole run is described like a single step. A path that leads to something before changes
leads to the same location after them if no link has been displaced (`Changes.leads`), and
in any case to no other location (`Changes.spot_eq`). -/
namespace Precompiler

/-- What was put last at a location, of contents put in order. -/
def lastPut (spot : Location) (puts : List (Location × ByteArray)) : Option ByteArray :=
  puts.reverse.lookup spot

@[simp] theorem lastPut_nil (spot : Location) : lastPut spot [] = none := rfl

theorem lastPut_append (spot : Location) (puts more : List (Location × ByteArray)) :
    lastPut spot (puts ++ more) = (lastPut spot more).or (lastPut spot puts) := by
  rw [lastPut, List.reverse_append, List.lookup_append]
  rfl

theorem lastPut_singleton (spot goal : Location) (content : ByteArray) :
    lastPut spot [(goal, content)] = if spot = goal then some content else none := by
  by_cases h : spot = goal
  · simp [lastPut, h]
  · have hb : (spot == goal) = false := by simpa using h
    simp [lastPut, List.lookup_cons, h, hb]

theorem lastPut_eq_none_iff {spot : Location} {puts : List (Location × ByteArray)} :
    lastPut spot puts = none ↔ ∀ put ∈ puts, put.1 ≠ spot := by
  rw [lastPut, List.lookup_eq_none_iff]
  constructor
  · intro h put hput heq
    simpa [heq] using h put (List.mem_reverse.mpr hput)
  · intro h put hput
    simpa using (h put (List.mem_reverse.mp hput)).symm

namespace Files

/-- What putting contents at locations, one after another, makes of files. -/
structure Changes (puts : List (Location × ByteArray)) (before after : Files) : Prop where
  here : after.here = before.here
  put : ∀ spot content, lastPut spot puts = some content →
    after.tree.get? spot = some (.file content false) ∧
      ∀ s, before.tree.get? spot ≠ some (.directory s)
  kept : ∀ spot, lastPut spot puts = none →
    after.tree.get? spot = before.tree.get? spot ∨
      before.tree.get? spot = none ∧ after.tree.get? spot = some (.directory false)

variable {puts more : List (Location × ByteArray)} {before middle after : Files} {spot : Location}

theorem Changes.refl (files : Files) : Changes [] files files where
  here := rfl
  put := fun spot content h => by simp at h
  kept := fun spot _ => .inl rfl

theorem Changes.directory (h : Changes puts before after) {s : Bool}
    (hget : before.tree.get? spot = some (.directory s)) :
    after.tree.get? spot = some (.directory s) := by
  rcases hput : lastPut spot puts with _ | content
  · rcases h.kept spot hput with heq | ⟨hnone, _⟩
    · rw [heq, hget]
    · simp [hget] at hnone
  · exact absurd hget ((h.put spot content hput).2 s)

theorem Changes.file (h : Changes puts before after) {content : ByteArray} {x : Bool}
    (hget : before.tree.get? spot = some (.file content x)) :
    ∃ content' x', after.tree.get? spot = some (.file content' x') := by
  rcases hput : lastPut spot puts with _ | content'
  · rcases h.kept spot hput with heq | ⟨hnone, _⟩
    · exact ⟨content, x, heq.trans hget⟩
    · simp [hget] at hnone
  · exact ⟨content', false, (h.put spot content' hput).1⟩

/-- A link stays, or a file takes its place. -/
theorem Changes.link (h : Changes puts before after) {path : Path}
    (hget : before.tree.get? spot = some (.link path)) :
    after.tree.get? spot = some (.link path) ∨
      ∃ content x, after.tree.get? spot = some (.file content x) := by
  rcases hput : lastPut spot puts with _ | content
  · rcases h.kept spot hput with heq | ⟨hnone, _⟩
    · exact .inl (heq.trans hget)
    · simp [hget] at hnone
  · exact .inr ⟨content, false, (h.put spot content hput).1⟩

/-- No link is new. -/
theorem Changes.of_link (h : Changes puts before after) {path : Path}
    (hget : after.tree.get? spot = some (.link path)) :
    before.tree.get? spot = some (.link path) := by
  rcases hput : lastPut spot puts with _ | content
  · rcases h.kept spot hput with heq | ⟨_, hdir⟩
    · rw [← heq, hget]
    · simp [hget] at hdir
  · simp [(h.put spot content hput).1] at hget

theorem Changes.linkless (h : Changes puts before after) (hlinkless : before.tree.Linkless) :
    after.tree.Linkless := fun spot path hget => hlinkless spot path (h.of_link hget)

theorem Changes.trans (h : Changes puts before middle) (h' : Changes more middle after) :
    Changes (puts ++ more) before after where
  here := h'.here.trans h.here
  put := by
    intro spot content hlast
    rw [lastPut_append] at hlast
    rcases hmore : lastPut spot more with _ | content'
    · rw [hmore, Option.none_or] at hlast
      obtain ⟨hget, hfree⟩ := h.put spot content hlast
      refine ⟨?_, hfree⟩
      rcases h'.kept spot hmore with heq | ⟨hnone, _⟩
      · rw [heq, hget]
      · simp [hget] at hnone
    · rw [hmore, Option.some_or, Option.some.injEq] at hlast
      subst hlast
      obtain ⟨hget, hfree⟩ := h'.put spot content' hmore
      exact ⟨hget, fun s hdir => hfree s (h.directory hdir)⟩
  kept := by
    intro spot hlast
    rw [lastPut_append, Option.or_eq_none_iff] at hlast
    obtain ⟨hmore, hputs⟩ := hlast
    rcases h.kept spot hputs with heq | ⟨hnone, hdir⟩
    · rcases h'.kept spot hmore with heq' | ⟨hnone, hdir⟩
      · exact .inl (heq'.trans heq)
      · exact .inr ⟨heq ▸ hnone, hdir⟩
    · exact .inr ⟨hnone, h'.directory hdir⟩

/-! ### Paths across changes -/

open FileTree in
/-- Where a path leads it still leads after changes, if every link is still there. -/
theorem Changes.leads (h : Changes puts before after)
    (hlinks : ∀ spot path, before.tree.get? spot = some (.link path) →
      after.tree.get? spot = some (.link path))
    {followLast : Bool} {n : Nat} {begin : Location} {segments : List String} {entry : Entry}
    (hleads : before.tree.Leads followLast n begin segments (.present spot entry)) :
    ∃ entry', after.tree.Leads followLast n begin segments (.present spot entry') ∧
      (entry'.isDirectory = entry.isDirectory) := by
  have hkeep : ∀ goal entry, before.tree.get? goal = some entry → ∃ entry',
      after.tree.get? goal = some entry' ∧ entry'.isDirectory = entry.isDirectory ∧
        ∀ path, entry' = .link path → entry = .link path := by
    intro goal entry hget
    cases entry with
    | file content x =>
      obtain ⟨content', x', hget'⟩ := h.file hget
      exact ⟨_, hget', rfl, by simp⟩
    | link path => exact ⟨_, hlinks goal path hget, rfl, by simp⟩
    | directory s => exact ⟨_, h.directory hget, rfl, by simp⟩
  generalize htarget : Target.present spot entry = target at hleads
  induction hleads with
  | here hget =>
    obtain ⟨rfl, rfl⟩ := Target.present.inj htarget
    obtain ⟨entry', hget', hkind, _⟩ := hkeep _ _ hget
    exact ⟨entry', .here hget', hkind⟩
  | idle hidle _ ih =>
    obtain ⟨entry', hleads, hkind⟩ := ih htarget
    exact ⟨entry', .idle hidle hleads, hkind⟩
  | up _ ih =>
    obtain ⟨entry', hleads, hkind⟩ := ih htarget
    exact ⟨entry', .up hleads, hkind⟩
  | absent _ _ => cases htarget
  | present hstep hget hlast =>
    obtain ⟨rfl, rfl⟩ := Target.present.inj htarget
    obtain ⟨entry', hget', hkind, hlink⟩ := hkeep _ _ hget
    exact ⟨entry', .present hstep hget' fun path heq => hlast path (hlink path heq), hkind⟩
  | enter hstep hget hrest _ ih =>
    obtain ⟨entry', hleads, hkind⟩ := ih htarget
    exact ⟨entry', .enter hstep (h.directory hget) hrest hleads, hkind⟩
  | link hstep hget hlast _ ih =>
    obtain ⟨entry', hleads, hkind⟩ := ih htarget
    exact ⟨entry', .link hstep (hlinks _ _ hget) hlast hleads, hkind⟩

/-- What a path finds it still finds after changes at the same location, if every link is still
there. -/
theorem Changes.find? (h : Changes puts before after)
    (hlinks : ∀ spot path, before.tree.get? spot = some (.link path) →
      after.tree.get? spot = some (.link path))
    {path : Path} {entry : Entry} (hfind : before.find? path = some (spot, entry)) :
    ∃ entry', after.find? path = some (spot, entry') := by
  obtain ⟨hne, husable, begin, hbegin, hleads⟩ := resolve_eq_ok_iff.mp (find?_eq_some_iff.mp hfind)
  obtain ⟨entry', hafter, _⟩ := h.leads hlinks hleads
  refine ⟨entry', find?_eq_some_iff.mpr (resolve_eq_ok_iff.mpr ⟨hne, husable, begin, ?_, hafter⟩)⟩
  rw [start, h.here]
  exact hbegin

/-- Where a path names a directory it still names it after changes, if every link is still there. -/
theorem Changes.find?_directory (h : Changes puts before after)
    (hlinks : ∀ spot path, before.tree.get? spot = some (.link path) →
      after.tree.get? spot = some (.link path))
    {path : Path} {s : Bool} (hfind : before.find? path = some (spot, .directory s)) :
    after.find? path = some (spot, .directory s) := by
  obtain ⟨entry, hafter⟩ := h.find? hlinks hfind
  cases (get?_of_find? hafter).symm.trans (h.directory (get?_of_find? hfind))
  exact hafter

/-- Without links a path still finds what it found where nothing has been put. -/
theorem Changes.find?_kept (h : Changes puts before after) (hlinkless : before.tree.Linkless)
    {path : Path} {entry : Entry} (hfind : before.find? path = some (spot, entry))
    (hput : lastPut spot puts = none) : after.find? path = some (spot, entry) := by
  obtain ⟨entry', hafter⟩ := h.find? (fun spot path hget => absurd hget (hlinkless spot path)) hfind
  rcases h.kept spot hput with heq | ⟨hnone, _⟩
  · cases (get?_of_find? hafter).symm.trans (heq.trans (get?_of_find? hfind))
    exact hafter
  · simp [get?_of_find? hfind] at hnone

open FileTree in
/-- A path that does not follow its last link means one location, before changes and after, if
it means any. Links on the way that have been displaced make it mean none. -/
theorem Changes.spot_eq (h : Changes puts before after) {n : Nat} {begin : Location}
    {segments : List String} {target target' : Target}
    (hbefore : before.tree.Leads false n begin segments target)
    (hafter : after.tree.Leads false n begin segments target') : target'.spot = target.spot := by
  have hstay : after.tree.follow false n begin segments = .ok target' := hafter.follow_eq
  clear hafter
  induction hbefore generalizing target' with
  | here hget =>
    rw [follow_nil] at hstay
    split at hstay <;> cases hstay
    rfl
  | idle hidle _ ih => exact ih (by rwa [follow_idle hidle] at hstay)
  | up _ ih => exact ih (by rwa [follow_up] at hstay)
  | absent hstep _ | present hstep _ _ =>
    rw [follow_step hstep] at hstay
    split at hstay <;> simp at hstay <;> exact hstay ▸ rfl
  | enter hstep hget hrest _ ih =>
    rw [follow_step hstep, h.directory hget] at hstay
    exact ih (by simpa [hrest] using hstay)
  | @link n spot segment rest target path hstep hget hlast _ ih =>
    have hrest : rest ≠ [] := fun hnil => Bool.noConfusion (hlast hnil)
    rw [follow_step hstep] at hstay
    rcases h.link hget with hlink | ⟨content, x, hfile⟩
    · rw [hlink] at hstay
      exact ih (by simpa [hrest, viaLink] using hstay)
    · rw [hfile] at hstay
      simp [hrest] at hstay

end Files

end Precompiler
