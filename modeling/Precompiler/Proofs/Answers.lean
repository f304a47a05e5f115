import Precompiler.Proofs.Complaints
import Precompiler.Proofs.Templates

/-! What an engine takes from its processes.

An answer is an object whose fields may stand in any order, beside others, but each at most once; or it is an
array of the same parts in their order. A part that is missing and one that is `null` tell the same
(`Response.Tells`). So a result is never `null`, and a request is carried out just by a process that has ended
well, has taken all of it and tells a result under a true `ok` (`Outcome.Carries`). What an engine makes of any
other process is a failure, and a template that it rejects is named, which the engine cannot do
(`Engine.ofProcess_sound`). -/
namespace Precompiler

/-! ### Answers -/

namespace Json

theorem number?_ne_null {text : List Char} : number? text ≠ some .null := by
  -- A number is whole or it is a float, whatever its digits are.
  have hcases : ∀ {c d : Prop} [Decidable c] [Decidable d] {n m : Int} {x : Option Float} {f : Float → Float},
      (if c then some (int n) else if d then some (int m) else x.map fun x => float (f x)) ≠ some null := by
    intro c d _ _ n m x f h
    by_cases hc : c
    · simp [hc] at h
    · by_cases hd : d <;> simp [hc, hd] at h
  exact hcases

/-- Only the word `null` is read as such. -/
theorem eq_null_of_ofOutline? {depth : Nat} {outline : Outline} (h : ofOutline? depth outline = some .null) :
    outline = .word "null".toList := by
  have hmap : ∀ {α : Type} {read : Option α} {f : α → Json}, (∀ a, f a ≠ .null) → read.map f ≠ some .null := by
    intro _ read f hf hread
    obtain ⟨a, _, ha⟩ := Option.map_eq_some_iff.mp hread
    exact hf a ha
  cases outline with
  | word text =>
    rw [ofOutline?.eq_1, word?] at h
    by_cases hnull : (text == "null".toList) = true
    · rw [eq_of_beq hnull]
    · rw [if_neg hnull] at h
      split at h
      · cases h
      split at h
      · cases h
      exact absurd h number?_ne_null
  | string pieces =>
    rw [ofOutline?.eq_2] at h
    exact absurd h (hmap fun _ => by simp)
  | array elements =>
    cases depth with
    | zero => simp [ofOutline?] at h
    | succ n =>
      rw [ofOutline?] at h
      exact absurd h (hmap fun _ => by simp)
  | object fields =>
    cases depth with
    | zero => simp [ofOutline?] at h
    | succ n =>
      rw [ofOutline?] at h
      exact absurd h (hmap fun _ => by simp [ofFields])

end Json

namespace Response

open Json (Outline Piece)

/-- The words for the truth values. -/
inductive Switch : Outline → Bool → Prop where
  | on : Switch (.word "true".toList) true
  | off : Switch (.word "false".toList) false

/-- What a part tells that may be missing. -/
inductive Part {α : Type} (read : Outline → Option α) : Option Outline → Option α → Prop where
  | missing : Part read none none
  | null : Part read (some (.word "null".toList)) none
  | told {outline : Outline} {value : α} : outline ≠ .word "null".toList → read outline = some value →
      Part read (some outline) (some value)

/-- Fields with their names read, which must be text. -/
def Named : List (List Piece × Outline) → List (String × Outline) → Prop :=
  List.Forall₂ fun field named => Json.string? field.1 = some named.1 ∧ field.2 = named.2

/-- A name stands at most once among the fields, and the part stands under it. -/
def Once (name : String) (fields : List (String × Outline)) (part : Option Outline) : Prop :=
  fields.filter (·.1 == name) = part.toList.map (name, ·)

/-- The parts of an answer: whether it is one of success, its result and its error. -/
inductive Parts : Outline → Outline → Option Outline → Option Outline → Prop where
  | object {fields : List (List Piece × Outline)} {named : List (String × Outline)} {ok : Outline}
      {result error : Option Outline} : Named fields named → Once "ok" named (some ok) →
      Once "result" named result → Once "error" named error → Parts (.object fields) ok result error
  | array {ok : Outline} {result error : Option Outline} : (error.isSome → result.isSome) →
      Parts (.array (ok :: (result.toList ++ error.toList))) ok result error

/-- An outline tells an answer. -/
def Tells (outline : Outline) (response : Response) : Prop :=
  ∃ ok result error, Parts outline ok result error ∧ Switch ok response.ok ∧
    Part result? result response.result ∧ Part text? error response.error

variable {outline : Outline} {response : Response}

theorem switch?_eq_some_iff {b : Bool} : switch? outline = some b ↔ Switch outline b := by
  constructor
  · intro h
    unfold switch? at h
    split at h
    next text =>
      split at h
      next htrue =>
        cases h
        rw [eq_of_beq htrue]
        exact .on
      next =>
        split at h
        next hfalse =>
          cases h
          rw [eq_of_beq hfalse]
          exact .off
        next => cases h
    next => cases h
  · intro h
    cases h <;> rfl

theorem perhaps_eq_some_iff {α : Type} {read : Outline → Option α} {part : Option Outline} {value : Option α} :
    perhaps read part = some value ↔ Part read part value := by
  constructor
  · intro h
    unfold perhaps at h
    split at h
    next =>
      cases h
      exact .missing
    next =>
      cases h
      exact .null
    next outline hother =>
      obtain ⟨value, hread, rfl⟩ := Option.map_eq_some_iff.mp h
      exact .told hother hread
  · intro h
    cases h with
    | missing => rfl
    | null => rfl
    | @told outline value hother hread =>
      unfold perhaps
      split
      next heq => cases heq
      next heq => exact absurd (Option.some.inj heq) hother
      next heq =>
        cases heq
        rw [hread]
        rfl

theorem single?_eq_some_iff {name : String} {fields : List (String × Outline)} {part : Option Outline} :
    single? name fields = some part ↔ Once name fields part := by
  have hnames : ∀ field ∈ fields.filter (·.1 == name), field.1 = name := fun field hfield =>
    eq_of_beq (List.mem_filter.mp hfield).2
  unfold single? Once
  generalize fields.filter (·.1 == name) = found at hnames
  rcases found with _ | ⟨⟨other, outline⟩, _ | ⟨second, rest⟩⟩
  · cases part <;> simp
  · obtain rfl : other = name := hnames _ List.mem_cons_self
    cases part <;> simp
  · cases part <;> simp

theorem named_iff {fields : List (List Piece × Outline)} {named : List (String × Outline)} :
    (fields.mapM fun (name, outline) => (Json.string? name).map (·, outline)) = some named ↔
      Named fields named := by
  induction fields generalizing named with
  | nil => simp [Named, eq_comm]
  | cons field fields ih =>
    rw [Named, List.forall₂_cons_left_iff, List.mapM_cons]
    simp only [Option.bind_eq_bind, Option.bind_eq_some_iff, Option.map_eq_some_iff, ih, Option.pure_def,
      Option.some.injEq]
    constructor
    · rintro ⟨_, ⟨name, hname, rfl⟩, rest, hrest, rfl⟩
      exact ⟨_, _, ⟨hname, rfl⟩, hrest, rfl⟩
    · rintro ⟨⟨name, outline⟩, rest, ⟨hname, rfl⟩, hrest, rfl⟩
      exact ⟨_, ⟨name, hname, rfl⟩, rest, hrest, rfl⟩

theorem ofParts?_eq_some_iff {ok result error : Option Outline} :
    ofParts? ok result error = some response ↔ ∃ outline, ok = some outline ∧ Switch outline response.ok ∧
      Part result? result response.result ∧ Part text? error response.error := by
  unfold ofParts?
  simp only [Option.bind_eq_bind, Option.bind_eq_some_iff, Option.pure_def, Option.some.injEq,
    switch?_eq_some_iff, perhaps_eq_some_iff]
  constructor
  · rintro ⟨outline, rfl, b, hswitch, value, hresult, text, herror, rfl⟩
    exact ⟨outline, rfl, hswitch, hresult, herror⟩
  · rintro ⟨outline, rfl, hswitch, hresult, herror⟩
    exact ⟨outline, rfl, _, hswitch, _, hresult, _, herror, rfl⟩

/-- An outline is read as the answer that it tells. -/
theorem ofOutline?_eq_some_iff : ofOutline? outline = some response ↔ Tells outline response := by
  constructor
  · intro h
    unfold ofOutline? at h
    split at h
    next fields =>
      simp only [Option.bind_eq_bind, Option.bind_eq_some_iff, named_iff, single?_eq_some_iff,
        ofParts?_eq_some_iff] at h
      obtain ⟨named, hnamed, _, hok, result, hresult, error, herror, ok, rfl, hanswer⟩ := h
      exact ⟨ok, result, error, .object hnamed hok hresult herror, hanswer⟩
    next elements =>
      split at h
      next hlength =>
        obtain ⟨ok, hok, hanswer⟩ := ofParts?_eq_some_iff.mp h
        refine ⟨ok, elements[1]?, elements[2]?, ?_, hanswer⟩
        rcases elements with _ | ⟨first, _ | ⟨second, _ | ⟨third, _ | ⟨fourth, rest⟩⟩⟩⟩
        · cases hok
        · cases hok
          exact @Parts.array _ none none nofun
        · cases hok
          exact @Parts.array _ (some second) none nofun
        · cases hok
          exact @Parts.array _ (some second) (some third) fun _ => rfl
        · simp only [List.length_cons] at hlength
          omega
      next => cases h
    next => cases h
  · rintro ⟨ok, result, error, hparts, hanswer⟩
    have hread : ofParts? (some ok) result error = some response := ofParts?_eq_some_iff.mpr ⟨ok, rfl, hanswer⟩
    cases hparts with
    | object hnamed hok hresult herror =>
      rw [ofOutline?, named_iff.mpr hnamed]
      simpa [single?_eq_some_iff.mpr hok, single?_eq_some_iff.mpr hresult, single?_eq_some_iff.mpr herror]
        using hread
    | array horder =>
      rcases result with _ | result
      · rcases error with _ | error
        · exact hread
        · simp at horder
      · rcases error with _ | error <;> exact hread

/-- A result that is told is not `null`. -/
theorem Tells.result_ne_null {value : Json} (h : Tells outline response) (hvalue : response.result = some value) :
    value ≠ .null := by
  obtain ⟨_, _, _, _, _, hresult, _⟩ := h
  rw [hvalue] at hresult
  cases hresult with
  | told hother hread =>
    rintro rfl
    exact hother (Json.eq_null_of_ofOutline? hread)

end Response

/-! ### Requests -/

namespace Outcome

/-- A process has told an answer, however it has ended. -/
inductive Tells : Outcome → Response → Prop where
  | of {success tookAll : Bool} {output errors : ByteArray} {outline : Json.Outline} {response : Response} :
      Json.outline? output = some outline → Response.Tells outline response →
      Tells (.ended success tookAll output errors) response

/-- A process has carried out a request with a result: it has ended well, has taken the whole request, and
tells the result, which is not `null`. -/
structure Carries (outcome : Outcome) (result : Json) : Prop where
  ended : ∃ output errors, outcome = .ended true true output errors
  told : ∃ error, outcome.Tells ⟨true, some result, error⟩
  notNull : result ≠ .null

/-- What a reply says of a process, for replies that stand for JSON values. -/
structure Yields {α : Type} (outcome : Outcome) (engineModule : String) (asJson : α → Json)
    (reply : Except Failure α) : Prop where
  accepts : ∀ value, reply = .ok value ↔ outcome.Carries (asJson value)
  /-- A process that fails is known by its complaints, whatever it has taken and answered. -/
  reports : ∀ tookAll output errors, outcome = .ended false tookAll output errors →
    ∃ failure, reply = .error failure ∧ Complains engineModule errors failure
  /-- An answer of failure stays one, even if it has a result. -/
  refuses : ∀ response, outcome.Tells response → response.ok = false → ∀ value, reply ≠ .ok value

variable {outcome : Outcome} {engineModule : String} {output errors : ByteArray} {response other : Response}

theorem ofBytes?_eq_some_iff {success tookAll : Bool} :
    Response.ofBytes? output = some response ↔ (ended success tookAll output errors).Tells response := by
  rw [Response.ofBytes?, Option.bind_eq_some_iff]
  constructor
  · rintro ⟨outline, houtline, hresponse⟩
    exact .of houtline (Response.ofOutline?_eq_some_iff.mp hresponse)
  · intro h
    cases h with
    | of houtline htells => exact ⟨_, houtline, Response.ofOutline?_eq_some_iff.mpr htells⟩

/-- A process tells one answer. -/
theorem Tells.eq (h : outcome.Tells response) (h' : outcome.Tells other) : response = other := by
  cases outcome with
  | ended success tookAll output errors =>
    exact Option.some.inj ((ofBytes?_eq_some_iff.mpr h).symm.trans (ofBytes?_eq_some_iff.mpr h'))
  | notFound | refused => cases h

theorem resultOf_eq_ok_iff {value : Json} : resultOf response = .ok value ↔
    ∃ error, response = ⟨true, some value, error⟩ := by
  obtain ⟨_ | _, _ | result, error⟩ := response <;> simp [resultOf]

/-- A request has a result just if its process carries it out. -/
theorem result_eq_ok_iff {program : String} {value : Json} :
    outcome.result program engineModule = .ok value ↔ outcome.Carries value := by
  constructor
  · intro h
    unfold result at h
    split at h
    · cases h
    · cases h
    · cases h
    · cases h
    next output errors =>
      split at h
      next => cases h
      next response hresponse =>
        obtain ⟨error, rfl⟩ := resultOf_eq_ok_iff.mp h
        have htells : (ended true true output errors).Tells _ := ofBytes?_eq_some_iff.mp hresponse
        refine ⟨⟨output, errors, rfl⟩, ⟨error, htells⟩, ?_⟩
        cases htells with
        | of _ htold => exact htold.result_ne_null rfl
  · rintro ⟨⟨output, errors, rfl⟩, ⟨error, htells⟩, _⟩
    rw [result, ofBytes?_eq_some_iff.mpr htells]
    exact resultOf_eq_ok_iff.mpr ⟨error, rfl⟩

/-- A reply that is a value just if the process carries it out, and that keeps the failures of the request. -/
theorem yields_of {α : Type} {asJson : α → Json} {reply : Except Failure α} (program : String)
    (haccepts : ∀ value, reply = .ok value ↔ outcome.result program engineModule = .ok (asJson value))
    (hfails : ∀ failure, outcome.result program engineModule = .error failure → reply = .error failure) :
    outcome.Yields engineModule asJson reply := by
  have hcarries : ∀ value, reply = .ok value ↔ outcome.Carries (asJson value) := fun value =>
    (haccepts value).trans result_eq_ok_iff
  refine ⟨hcarries, fun tookAll output errors hended => ?_, fun response htells hok value hvalue => ?_⟩
  · subst hended
    exact ⟨_, hfails _ rfl, complains_exitFailure engineModule errors⟩
  · obtain ⟨_, ⟨error, htold⟩, _⟩ := (hcarries value).mp hvalue
    rw [htells.eq htold] at hok
    cases hok

end Outcome

/-! ### The whole exchange -/

/-- **What an engine takes from its processes, it takes soundly.** Parsing and precompiling give a value just if
the process has carried the request out with it, and for precompiling it must be a text. A process that fails
is known by its complaints alone. A template is reported as rejected just if it is, and under the name of its file,
unless it is a hook that says so. -/
theorem Engine.ofProcess_sound (program engineModule : String) (run : ByteArray → Outcome) :
    (∀ source, (run (parseRequest source).compact.toUTF8).Yields engineModule (fun ast : Ast => ast)
      ((ofProcess program engineModule run).parse source)) ∧
    (∀ ast options, (run (precompileRequest ast options).compact.toUTF8).Yields engineModule Json.str
      ((ofProcess program engineModule run).precompile ast options)) ∧
    ∀ file source hook options other message world,
      ((compileSource (ofProcess program engineModule run) file source hook options).outcome world).1 =
          .error (.compile other message) ↔
        other = file ∧ (ofProcess program engineModule run).Rejects source hook options message ∨
          ∃ own ∈ hook, ∃ ast, (ofProcess program engineModule run).parse source = .ok ast ∧
            (own.apply ast).2 = .error (.compile other message) := by
  refine ⟨fun source => ?_, fun ast options => ?_, fun file source hook options other message world => ?_⟩
  · exact Outcome.yields_of program (fun _ => Iff.rfl) fun _ h => h
  · refine Outcome.yields_of program (fun payload => ?_) fun failure h => ?_
    · rw [ofProcess, Action.bind_eq_ok_iff]
      constructor
      · rintro ⟨answer, hanswer, hpayload⟩
        cases answer <;> cases hpayload
        exact hanswer
      · intro h
        exact ⟨_, h, rfl⟩
    · rw [ofProcess, Action.bind_eq_error_iff]
      exact .inl h
  · obtain ⟨lines, _, events, _, houtcome⟩ := compileSource_comesTo (ofProcess program engineModule run) file source
      hook options world.files
    rw [houtcome world.journal]
    exact payloadOf_rejected_iff

example : (Engine.ofProcess "node" "handlebars" fun _ =>
    .ended true true "[true,\"text\"]".toUTF8 ByteArray.empty).precompile .null (.of [] false) = .ok "text" := by
  decide +kernel

example : (Engine.ofProcess "node" "handlebars" fun _ =>
    .ended false false "[true,\"text\"]".toUTF8 " no\n".toUTF8).precompile .null (.of [] false) =
      .error (.compile "" "no") := by
  decide +kernel

end Precompiler
