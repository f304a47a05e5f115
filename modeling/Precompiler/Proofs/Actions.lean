import Mathlib.Data.List.Forall2
import Precompiler.Action

/-! What actions come to.

An action takes a world to a value or a failure and to the world it leaves (`outcome`). The
lemmas below open the outcome of every way to build an action. Along a list an action runs
in a chain, each run in the world that the run before it has left: `outcome_mapM_ok_iff` and
`outcome_mapM_error_iff` say that a list comes to an end exactly when every run does, and
otherwise stops at the first run that fails.

No action reads the journal: it is `Blind` to it, and only adds to it. An action that
`Looks` changes no file either, and adds nothing but notes. One that changes no file but prints
is described by what it `ComesTo`, or by what it `Becomes` if there is more to do. -/
namespace Precompiler.Action

variable {α β : Type}

/-- What an action comes to in a world: its result, and the world it leaves. -/
def outcome (action : Action α) (world : World) : Except Failure α × World := action.run world

/-- A result is come to in some world. -/
theorem exists_outcome {action : Action α} {world : World} {result : Except Failure α}
    (h : (action.outcome world).1 = result) : ∃ left, action.outcome world = (result, left) :=
  ⟨_, Prod.ext h rfl⟩

@[simp] theorem outcome_pure (a : α) (world : World) :
    (pure a : Action α).outcome world = (.ok a, world) := rfl

@[simp] theorem outcome_throw (failure : Failure) (world : World) :
    (throw failure : Action α).outcome world = (.error failure, world) := rfl

theorem outcome_bind (action : Action α) (next : α → Action β) (world : World) :
    (action >>= next).outcome world =
      match action.outcome world with
      | (.ok a, left) => (next a).outcome left
      | (.error failure, left) => (.error failure, left) := by
  show (match action.run world with
    | (r, left) => (ExceptT.bindCont next r) left) = _
  unfold outcome
  rcases action.run world with ⟨_ | _, _⟩ <;> rfl

@[simp] theorem outcome_bind_ok {action : Action α} {next : α → Action β} {world left : World}
    {a : α} (h : action.outcome world = (.ok a, left)) :
    (action >>= next).outcome world = (next a).outcome left := by
  rw [outcome_bind, h]

@[simp] theorem outcome_bind_error {action : Action α} {next : α → Action β} {world left : World}
    {failure : Failure} (h : action.outcome world = (.error failure, left)) :
    (action >>= next).outcome world = (.error failure, left) := by
  rw [outcome_bind, h]

@[simp] theorem outcome_ofExcept (result : Except Failure α) (world : World) :
    (ofExcept result).outcome world = (result, world) := by
  cases result <;> rfl

@[simp] theorem outcome_files (world : World) : files.outcome world = (.ok world.files, world) := rfl

@[simp] theorem outcome_setFiles (now : Files) (world : World) :
    (setFiles now).outcome world = (.ok (), {world with files := now}) := rfl

@[simp] theorem outcome_record (events : List Event) (world : World) :
    (record events).outcome world = (.ok (), {world with journal := world.journal ++ events}) := rfl

@[simp] theorem outcome_say (text : String) (world : World) :
    (say text).outcome world =
      (.ok (), {world with journal := world.journal ++ [.output text]}) := rfl

@[simp] theorem outcome_sayAll (texts : List String) (world : World) :
    (sayAll texts).outcome world =
      (.ok (), {world with journal := world.journal ++ texts.map .output}) := rfl

@[simp] theorem outcome_tell (text : String) (world : World) :
    (tell text).outcome world =
      (.ok (), {world with journal := world.journal ++ [.diagnostic text]}) := rfl

@[simp] theorem outcome_log (note : Note) (world : World) :
    (log note).outcome world =
      (.ok (), {world with journal := world.journal ++ [.note note]}) := rfl

@[simp] theorem outcome_logAll (notes : List Note) (world : World) :
    (logAll notes).outcome world =
      (.ok (), {world with journal := world.journal ++ notes.map .note}) := rfl

/-! ### Along a list -/

/-- Every entry of a related list is related to one. -/
theorem exists_of_forall₂ {R : α → β → Prop} {as : List α} {bs : List β} {b : β}
    (h : List.Forall₂ R as bs) (hb : b ∈ bs) : ∃ a ∈ as, R a b := by
  induction h with
  | nil => cases hb
  | @cons first other as bs hfirst _ ih =>
    rcases List.mem_cons.mp hb with rfl | hrest
    · exact ⟨first, List.mem_cons_self, hfirst⟩
    · obtain ⟨a, ha, hrel⟩ := ih hrest
      exact ⟨a, List.mem_cons_of_mem first ha, hrel⟩

/-- If every member is related to something, the list is related to a list. -/
theorem exists_forall₂ {R : α → β → Prop} {as : List α} (h : ∀ a ∈ as, ∃ b, R a b) :
    ∃ bs, List.Forall₂ R as bs := by
  induction as with
  | nil => exact ⟨[], .nil⟩
  | cons a as ih =>
    obtain ⟨⟨b, hb⟩, hrest⟩ := List.forall_mem_cons.mp h
    obtain ⟨bs, hbs⟩ := ih hrest
    exact ⟨b :: bs, .cons hb hbs⟩

/-- What a computation that may fail gives goes on to the next one. -/
theorem bind_eq_ok_iff {ε : Type} {result : Except ε α} {next : α → Except ε β} {b : β} :
    result >>= next = .ok b ↔ ∃ a, result = .ok a ∧ next a = .ok b := by
  cases result with
  | error failure => simp [bind, Except.bind]
  | ok a => simp [bind, Except.bind]

/-- Along a list a computation that may fail comes to values if it does for each member. -/
theorem mapM_eq_ok_iff {ε : Type} {f : α → Except ε β} {as : List α} {bs : List β} :
    as.mapM f = .ok bs ↔ List.Forall₂ (fun a b => f a = .ok b) as bs := by
  induction as generalizing bs with
  | nil => simp [pure, Except.pure, eq_comm]
  | cons a rest ih =>
    rw [List.mapM_cons, List.forall₂_cons_left_iff]
    simp only [bind_eq_ok_iff, ih, pure, Except.pure, Except.ok.injEq, @eq_comm _ _ bs]
    simp only [exists_and_left]

theorem bind_eq_error_iff {ε : Type} {result : Except ε α} {next : α → Except ε β} {failure : ε} :
    result >>= next = .error failure ↔
      result = .error failure ∨ ∃ a, result = .ok a ∧ next a = .error failure := by
  cases result <;> simp [bind, Except.bind]

theorem exists_of_map_ok {ε : Type} {result : Except ε α} {f : α → β} {b : β}
    (h : result.map f = .ok b) : ∃ a, result = .ok a := by
  cases result with
  | error failure => cases h
  | ok a => exact ⟨a, rfl⟩

/-- Along a list a computation fails where it fails first. -/
theorem mapM_eq_error_iff {ε : Type} {f : α → Except ε β} {as : List α} {failure : ε} :
    as.mapM f = .error failure ↔
      ∃ done a rest, as = done ++ a :: rest ∧ (∀ b ∈ done, ∃ c, f b = .ok c) ∧ f a = .error failure := by
  induction as with
  | nil => simp [pure, Except.pure]
  | cons first as ih =>
    rw [List.mapM_cons, bind_eq_error_iff]
    constructor
    · rintro (hfails | ⟨b, hfirst, hrest⟩)
      · exact ⟨[], first, as, rfl, by simp, hfails⟩
      · rcases bind_eq_error_iff.mp hrest with hrest | ⟨_, _, hpure⟩
        · obtain ⟨done, a, rest, rfl, hdone, hfails⟩ := ih.mp hrest
          exact ⟨first :: done, a, rest, rfl, List.forall_mem_cons.mpr ⟨⟨b, hfirst⟩, hdone⟩, hfails⟩
        · cases hpure
    · rintro ⟨_ | ⟨b, done⟩, a, rest, heq, hdone, hfails⟩
      · obtain ⟨rfl, rfl⟩ := List.cons.inj heq
        exact .inl hfails
      · obtain ⟨rfl, rfl⟩ := List.cons.inj heq
        obtain ⟨⟨c, hfirst⟩, hdone⟩ := List.forall_mem_cons.mp hdone
        exact .inr ⟨c, hfirst, bind_eq_error_iff.mpr (.inl (ih.mpr ⟨done, a, rest, rfl, hdone, hfails⟩))⟩

theorem exists_eq_ok_iff {ε : Type} {result : Except ε α} :
    (∃ a, result = .ok a) ↔ ∀ failure, result ≠ .error failure := by
  cases result <;> simp

/-- Along a list a computation fails if it fails for some member. -/
theorem exists_mapM_error_iff {ε : Type} {f : α → Except ε β} {as : List α} :
    (∃ failure, as.mapM f = .error failure) ↔ ∃ a ∈ as, ∃ failure, f a = .error failure := by
  constructor
  · rintro ⟨failure, hfails⟩
    obtain ⟨done, a, rest, rfl, _, hfails⟩ := mapM_eq_error_iff.mp hfails
    exact ⟨a, by simp, failure, hfails⟩
  · rintro ⟨a, ha, failure, hfails⟩
    rcases hall : as.mapM f with other | bs
    · exact ⟨other, rfl⟩
    · obtain ⟨b, _, hb⟩ := exists_of_forall₂ (mapM_eq_ok_iff.mp hall).flip ha
      cases hb.symm.trans hfails

theorem outcome_mapM_nil (step : α → Action β) (world : World) :
    (List.mapM step []).outcome world = (.ok [], world) := by
  rw [List.mapM_nil, outcome_pure]

theorem outcome_mapM_cons (step : α → Action β) (a : α) (rest : List α) (world : World) :
    (List.mapM step (a :: rest)).outcome world =
      match (step a).outcome world with
      | (.error failure, left) => (.error failure, left)
      | (.ok b, left) =>
        match (rest.mapM step).outcome left with
        | (.error failure, last) => (.error failure, last)
        | (.ok bs, last) => (.ok (b :: bs), last) := by
  rw [List.mapM_cons, outcome_bind]
  rcases (step a).outcome world with ⟨_ | b, left⟩
  · rfl
  · simp only [outcome_bind]
    rcases (rest.mapM step).outcome left with ⟨_ | bs, last⟩ <;> rfl

/-- Runs of an action along a list that all come to a value. -/
inductive Chain (step : α → Action β) : World → List α → List β → World → Prop where
  | nil (world : World) : Chain step world [] [] world
  | cons {world left last : World} {a : α} {b : β} {rest : List α} {bs : List β} :
      (step a).outcome world = (.ok b, left) → Chain step left rest bs last →
      Chain step world (a :: rest) (b :: bs) last

variable {step : α → Action β}

theorem outcome_mapM_ok_iff {as : List α} {bs : List β} {world last : World} :
    (as.mapM step).outcome world = (.ok bs, last) ↔ Chain step world as bs last := by
  induction as generalizing world bs with
  | nil =>
    rw [outcome_mapM_nil]
    constructor
    · intro h
      cases h
      exact .nil _
    · intro h
      cases h
      rfl
  | cons a rest ih =>
    rw [outcome_mapM_cons]
    constructor
    · intro h
      rcases hfirst : (step a).outcome world with ⟨_ | b, left⟩
      · simp [hfirst] at h
      · rcases hrest : (rest.mapM step).outcome left with ⟨_ | more, end_⟩
        · simp [hfirst, hrest] at h
        · simp only [hfirst, hrest, Prod.mk.injEq, Except.ok.injEq] at h
          obtain ⟨rfl, rfl⟩ := h
          exact .cons hfirst (ih.mp hrest)
    · rintro (_ | ⟨hfirst, hrest⟩)
      simp only [hfirst, ih.mpr hrest]

theorem outcome_mapM_error_iff {as : List α} {failure : Failure} {world last : World} :
    (as.mapM step).outcome world = (.error failure, last) ↔
      ∃ done a rest bs left, as = done ++ a :: rest ∧ Chain step world done bs left ∧
        (step a).outcome left = (.error failure, last) := by
  induction as generalizing world with
  | nil => simp
  | cons a rest ih =>
    rw [outcome_mapM_cons]
    constructor
    · intro h
      rcases hfirst : (step a).outcome world with ⟨e | b, left⟩
      · simp only [hfirst, Prod.mk.injEq, Except.error.injEq] at h
        obtain ⟨rfl, rfl⟩ := h
        exact ⟨[], a, rest, [], world, rfl, .nil world, hfirst⟩
      · rcases hrest : (rest.mapM step).outcome left with ⟨e | more, end_⟩
        · simp only [hfirst, hrest, Prod.mk.injEq, Except.error.injEq] at h
          obtain ⟨rfl, rfl⟩ := h
          obtain ⟨done, a', rest', bs, mid, rfl, hchain, hfail⟩ := ih.mp hrest
          exact ⟨a :: done, a', rest', b :: bs, mid, rfl, .cons hfirst hchain, hfail⟩
        · simp [hfirst, hrest] at h
    · rintro ⟨done, a', rest', bs, mid, hsplit, hchain, hfail⟩
      cases hchain with
      | nil =>
        simp only [List.nil_append, List.cons.injEq] at hsplit
        obtain ⟨rfl, rfl⟩ := hsplit
        simp only [hfail]
      | cons hfirst hchain =>
        simp only [List.cons_append, List.cons.injEq] at hsplit
        obtain ⟨rfl, rfl⟩ := hsplit
        simp only [hfirst, ih.mpr ⟨_, a', rest', _, mid, rfl, hchain, hfail⟩]

/-- The values of a list up to its first failure. -/
def completed (step : α → Action β) : List α → World → List β
  | [], _ => []
  | a :: rest, world =>
    match (step a).outcome world with
    | (.ok b, left) => b :: completed step rest left
    | (.error _, _) => []

theorem Chain.completed_append {world left : World} {as : List α} {bs : List β}
    (h : Chain step world as bs left) (rest : List α) :
    completed step (as ++ rest) world = bs ++ completed step rest left := by
  induction h with
  | nil => rfl
  | cons hfirst _ ih => simp only [List.cons_append, completed, hfirst, ih]

theorem completed_of_error {a : α} {rest : List α} {world left : World} {failure : Failure}
    (h : (step a).outcome world = (.error failure, left)) :
    completed step (a :: rest) world = [] := by
  simp only [completed, h]

/-! ### The journal makes no difference -/

/-- An action that does the same whatever has been shown, and only adds to it. -/
def Blind (action : Action α) : Prop :=
  ∀ files, ∃ result left events, ∀ journal,
    action.outcome ⟨files, journal⟩ = (result, ⟨left, journal ++ events⟩)

/-- An action that changes no file, and shows nothing but notes for the log. -/
def Looks (action : Action α) : Prop :=
  ∀ files, ∃ result, ∃ notes : List Note, ∀ journal,
    action.outcome ⟨files, journal⟩ = (result, ⟨files, journal ++ notes.map .note⟩)

theorem Looks.blind {action : Action α} (h : action.Looks) : action.Blind := fun files =>
  let ⟨result, notes, hrun⟩ := h files
  ⟨result, files, notes.map .note, hrun⟩

theorem Blind.setFiles (now : Files) : Blind (setFiles now) := fun _ =>
  ⟨.ok (), now, [], fun journal => by simp⟩

theorem Blind.record (events : List Event) : Blind (record events) := fun files =>
  ⟨.ok (), files, events, fun journal => by simp⟩

theorem Blind.bind {action : Action α} {next : α → Action β} (h : action.Blind)
    (hnext : ∀ a, (next a).Blind) : (action >>= next).Blind := by
  intro files
  obtain ⟨result, left, events, hrun⟩ := h files
  cases result with
  | error failure =>
    exact ⟨.error failure, left, events, fun journal => outcome_bind_error (hrun journal)⟩
  | ok a =>
    obtain ⟨result, last, more, hmore⟩ := hnext a left
    refine ⟨result, last, events ++ more, fun journal => ?_⟩
    rw [outcome_bind_ok (hrun journal), hmore, List.append_assoc]

theorem Looks.pure (a : α) : Looks (pure a : Action α) := fun files =>
  ⟨.ok a, [], fun journal => by simp⟩

theorem Looks.throw (failure : Failure) : Looks (throw failure : Action α) := fun files =>
  ⟨.error failure, [], fun journal => by simp⟩

theorem Looks.ofExcept (result : Except Failure α) : Looks (ofExcept result) := fun files =>
  ⟨result, [], fun journal => by simp⟩

theorem Looks.files : Looks files := fun files => ⟨.ok files, [], fun journal => by simp⟩

theorem Looks.log (note : Note) : Looks (log note) := fun files =>
  ⟨.ok (), [note], fun journal => by simp⟩

theorem Looks.bind {action : Action α} {next : α → Action β} (h : action.Looks)
    (hnext : ∀ a, (next a).Looks) : (action >>= next).Looks := by
  intro files
  obtain ⟨result, notes, hrun⟩ := h files
  cases result with
  | error failure => exact ⟨.error failure, notes, fun journal => outcome_bind_error (hrun journal)⟩
  | ok a =>
    obtain ⟨result, more, hmore⟩ := hnext a files
    refine ⟨result, notes ++ more, fun journal => ?_⟩
    rw [outcome_bind_ok (hrun journal), hmore, List.map_append, List.append_assoc]

theorem Looks.mapM {step : α → Action β} (h : ∀ a, (step a).Looks) (as : List α) :
    (as.mapM step).Looks := by
  induction as with
  | nil => exact .pure []
  | cons a rest ih =>
    rw [List.mapM_cons]
    exact (h a).bind fun _ => ih.bind fun _ => .pure _

theorem Looks.result_eq {action : Action α} (h : action.Looks) (files : Files)
    (journal other : List Event) :
    (action.outcome ⟨files, journal⟩).1 = (action.outcome ⟨files, other⟩).1 := by
  obtain ⟨result, notes, hrun⟩ := h files
  rw [hrun journal, hrun other]

/-- What looking comes to and what follows then come to the same as both alone, from the beginning. -/
theorem Looks.bind_result {action : Action α} {next : α → Action β} (h : action.Looks)
    (hnext : ∀ a, (next a).Looks) (world : World) :
    ((action >>= next).outcome world).1 =
      (action.outcome world).1 >>= fun a => ((next a).outcome world).1 := by
  obtain ⟨result, notes, hrun⟩ := h world.files
  rw [outcome_bind, hrun world.journal]
  cases result with
  | error failure => rfl
  | ok a => exact (hnext a).result_eq world.files _ _

/-- Along a list an action that looks comes to what it comes to for each member alone. -/
theorem Looks.mapM_result {step : α → Action β} (h : ∀ a, (step a).Looks) (as : List α) (world : World) :
    ((as.mapM step).outcome world).1 = as.mapM fun a => ((step a).outcome world).1 := by
  induction as with
  | nil => rfl
  | cons a rest ih =>
    rw [List.mapM_cons, List.mapM_cons, (h a).bind_result fun b => (Looks.mapM h rest).bind fun _ => .pure _]
    refine congrArg _ (funext fun b => ?_)
    rw [(Looks.mapM h rest).bind_result fun _ => .pure _, ih]
    rfl

/-- Along a list an action that looks gives the values that it gives for each member alone. -/
theorem Looks.mapM_ok_iff {step : α → Action β} (h : ∀ a, (step a).Looks) {as : List α} {bs : List β}
    {world : World} :
    ((as.mapM step).outcome world).1 = .ok bs ↔
      List.Forall₂ (fun a b => ((step a).outcome world).1 = .ok b) as bs := by
  rw [Looks.mapM_result h, mapM_eq_ok_iff]

/-- What a blind action comes to does not hang on the journal. -/
theorem Blind.outcome_eq {action : Action α} (h : action.Blind) {world left : World}
    {result : Except Failure α} (hrun : action.outcome world = (result, left)) (journal : List Event) :
    ∃ more, action.outcome ⟨world.files, journal⟩ = (result, ⟨left.files, more⟩) := by
  obtain ⟨result', left', events, hall⟩ := h world.files
  cases (hall world.journal).symm.trans hrun
  exact ⟨journal ++ events, hall journal⟩

theorem Blind.mapM {step : α → Action β} (h : ∀ a, (step a).Blind) (as : List α) :
    (as.mapM step).Blind := by
  induction as with
  | nil => exact (Looks.pure []).blind
  | cons a rest ih =>
    rw [List.mapM_cons]
    exact (h a).bind fun _ => ih.bind fun _ => (Looks.pure _).blind

theorem Blind.completed_eq {step : α → Action β} (h : ∀ a, (step a).Blind) (as : List α)
    (files : Files) (journal other : List Event) :
    completed step as ⟨files, journal⟩ = completed step as ⟨files, other⟩ := by
  induction as generalizing files journal other with
  | nil => rfl
  | cons a rest ih =>
    obtain ⟨result, left, events, hall⟩ := h a files
    cases result with
    | error failure => rw [completed_of_error (hall journal), completed_of_error (hall other)]
    | ok b => simp only [completed, hall journal, hall other, ih left (journal ++ events) (other ++ events)]

end Precompiler.Action

namespace Precompiler

/-! ### Standard output -/

/-- What an event puts on standard output. -/
def Event.text? : Event → Option String
  | .output text => some text
  | _ => none

/-- What events put on standard output, one after another. -/
def printed (events : List Event) : List String := events.filterMap Event.text?

@[simp] theorem printed_nil : printed [] = [] := rfl

@[simp] theorem printed_append (events more : List Event) :
    printed (events ++ more) = printed events ++ printed more := List.filterMap_append ..

@[simp] theorem printed_notes (notes : List Note) : printed (notes.map .note) = [] := by
  simp [printed, Event.text?]

@[simp] theorem printed_note (note : Note) : printed [.note note] = [] := rfl

@[simp] theorem printed_diagnostic (text : String) : printed [.diagnostic text] = [] := rfl

@[simp] theorem printed_output (text : String) : printed [.output text] = [text] := rfl

@[simp] theorem printed_outputs (texts : List String) : printed (texts.map .output) = texts := by
  simp [printed, Function.comp_def, Event.text?]

namespace Action

/-- An action that changes no file, comes to a result, and prints lines. -/
def ComesTo {α : Type} (action : Action α) (files : Files) (result : Except Failure α)
    (lines : List String) : Prop :=
  ∃ events, printed events = lines ∧ ∀ journal,
    action.outcome ⟨files, journal⟩ = (result, ⟨files, journal ++ events⟩)

variable {α β : Type} {files : Files}

theorem comesTo_files (files : Files) : Action.files.ComesTo files (.ok files) [] :=
  ⟨[], rfl, fun journal => by simp⟩

theorem comesTo_ofExcept (files : Files) (result : Except Failure α) :
    (ofExcept result).ComesTo files result [] := ⟨[], rfl, fun journal => by simp⟩

theorem comesTo_log (files : Files) (note : Note) : (log note).ComesTo files (.ok ()) [] :=
  ⟨[.note note], rfl, fun _ => rfl⟩

theorem comesTo_logAll (files : Files) (notes : List Note) : (logAll notes).ComesTo files (.ok ()) [] :=
  ⟨notes.map .note, printed_notes notes, fun _ => rfl⟩

theorem comesTo_tell (files : Files) (text : String) : (tell text).ComesTo files (.ok ()) [] :=
  ⟨[.diagnostic text], rfl, fun _ => rfl⟩

theorem Looks.comesTo {action : Action α} (h : action.Looks) (world : World) :
    action.ComesTo world.files (action.outcome world).1 [] := by
  obtain ⟨result, notes, hrun⟩ := h world.files
  exact ⟨notes.map .note, printed_notes notes, fun journal => by rw [hrun journal, hrun world.journal]⟩

theorem comesTo_sayAll (files : Files) (texts : List String) :
    (sayAll texts).ComesTo files (.ok ()) texts :=
  ⟨texts.map .output, printed_outputs texts, fun _ => rfl⟩

theorem blind_of_comesTo {action : Action α}
    (h : ∀ files, ∃ result lines, action.ComesTo files result lines) : action.Blind := fun files =>
  let ⟨result, _, events, _, hrun⟩ := h files
  ⟨result, files, events, hrun⟩

theorem ComesTo.bind {action : Action α} {next : α → Action β} {a : α} {result : Except Failure β}
    {lines more : List String} (h : action.ComesTo files (.ok a) lines)
    (hnext : (next a).ComesTo files result more) :
    (action >>= next).ComesTo files result (lines ++ more) := by
  obtain ⟨events, rfl, hrun⟩ := h
  obtain ⟨later, rfl, hlater⟩ := hnext
  refine ⟨events ++ later, printed_append .., fun journal => ?_⟩
  rw [outcome_bind_ok (hrun journal), hlater, List.append_assoc]

theorem ComesTo.bind_error {action : Action α} {next : α → Action β} {failure : Failure}
    {lines : List String} (h : action.ComesTo files (.error failure) lines) :
    (action >>= next).ComesTo files (.error failure) lines := by
  obtain ⟨events, hlines, hrun⟩ := h
  exact ⟨events, hlines, fun journal => outcome_bind_error (hrun journal)⟩

/-- What prints nothing comes to what its result comes to. -/
theorem ComesTo.silently {action : Action α} {next : α → Action β} {result : Except Failure α}
    {more : α → Except Failure β} {lines : List String} (h : action.ComesTo files result lines)
    (hnext : ∀ a, (next a).ComesTo files (more a) []) :
    (action >>= next).ComesTo files (result >>= more) lines := by
  cases result with
  | error failure => exact h.bind_error
  | ok a => exact (List.append_nil lines) ▸ h.bind (hnext a)

theorem ComesTo.of_result {action : Action α} {result other : Except Failure α} {lines : List String}
    (h : action.ComesTo files result lines) (heq : result = other) : action.ComesTo files other lines :=
  heq ▸ h

theorem ComesTo.of_lines {action : Action α} {result : Except Failure α} {lines more : List String}
    (h : action.ComesTo files result lines) (heq : lines = more) : action.ComesTo files result more :=
  heq ▸ h

/-- Along a list an action that changes no file comes to its results, up to the first failure, and each
run prints lines of its own. -/
theorem ComesTo.mapM {step : α → Action β} {result : α → Except Failure β} {Own : List String → Prop}
    (h : ∀ a, ∃ lines, Own lines ∧ (step a).ComesTo files (result a) lines) (as : List α) :
    ∃ chunks : List (List String), (∀ lines ∈ chunks, Own lines) ∧
      (as.mapM step).ComesTo files (as.mapM result) chunks.flatten := by
  induction as with
  | nil => exact ⟨[], by simp, (Looks.pure []).comesTo ⟨files, []⟩⟩
  | cons a rest ih =>
    obtain ⟨lines, hlines, hfirst⟩ := h a
    obtain ⟨chunks, hchunks, hrest⟩ := ih
    rw [List.mapM_cons, List.mapM_cons]
    cases hresult : result a with
    | error failure =>
      rw [hresult] at hfirst
      refine ⟨[lines], by simpa using hlines, ?_⟩
      exact hfirst.bind_error.of_lines (by simp)
    | ok b =>
      rw [hresult] at hfirst
      refine ⟨lines :: chunks, List.forall_mem_cons.mpr ⟨hlines, hchunks⟩, ?_⟩
      exact hfirst.bind (hrest.silently fun bs => (Looks.pure (b :: bs)).comesTo ⟨files, []⟩)

/-- An action that changes no file and prints lines until it goes on as another action. -/
def Becomes (action : Action α) (files : Files) (lines : List String) (rest : Action α) : Prop :=
  ∃ events, printed events = lines ∧ ∀ journal,
    action.outcome ⟨files, journal⟩ = rest.outcome ⟨files, journal ++ events⟩

theorem Becomes.refl (action : Action α) (files : Files) : action.Becomes files [] action :=
  ⟨[], rfl, fun journal => by rw [List.append_nil]⟩

theorem ComesTo.becomes {action : Action α} {next : α → Action β} {a : α} {lines more : List String}
    {rest : Action β} (h : action.ComesTo files (.ok a) lines)
    (hnext : (next a).Becomes files more rest) : (action >>= next).Becomes files (lines ++ more) rest := by
  obtain ⟨events, rfl, hrun⟩ := h
  obtain ⟨later, rfl, hlater⟩ := hnext
  refine ⟨events ++ later, printed_append .., fun journal => ?_⟩
  rw [outcome_bind_ok (hrun journal), hlater, List.append_assoc]

theorem Becomes.comesTo {action rest : Action α} {result : Except Failure α} {lines more : List String}
    (h : action.Becomes files lines rest) (hrest : rest.ComesTo files result more) :
    action.ComesTo files result (lines ++ more) := by
  obtain ⟨events, rfl, hrun⟩ := h
  obtain ⟨later, rfl, hlater⟩ := hrest
  refine ⟨events ++ later, printed_append .., fun journal => ?_⟩
  rw [hrun journal, hlater, List.append_assoc]

end Action

end Precompiler
