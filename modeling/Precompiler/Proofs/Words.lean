import Mathlib.Data.List.Count
import Mathlib.Data.List.TakeDrop
import Precompiler.CommandLine.Reading
import Precompiler.Proofs.Actions

/-! What is written on a command line is read.

The words behind `compile` each say one thing: that an option has a value, that a switch is on, or that there
is a source (`Saying`, `Writes`), and behind `--` every word is a source (`Spells`). Between two words only what
is pending can be open, so what counts is what the words read so far settle to (`Reading.Settles`). One word
takes this along with what it says (`Settles.step`), and so do all words, one after another (`Settles.spelled`).
What is said is gained while everything else stays (`Arguments.Gains`), so what is said in any order comes to
the arguments of which it is said (`Arguments.IsSaidBy.told`). So arguments are read back however they are written
(`words_read_back`). -/
namespace Precompiler

namespace CommandLine

/-! ### Spellings -/

/-- The long names of an option with a value. -/
def Setting.names : Setting → List String
  | config => ["config"]
  | dest => ["dest"]
  | commonjs => ["commonjs"]
  | handlebarPath => ["handlebar-path", "handlebarPath"]
  | known => ["known"]
  | registry => ["namespace"]
  | root => ["root"]
  | extension => ["extension"]
  | charset => ["charset"]
  | postParse => ["post-parse"]
  | exclude => ["exclude"]
  | node => ["node"]

/-- The options that take a value. -/
def Setting.all : List Setting :=
  [config, dest, commonjs, handlebarPath, known, registry, root, extension, charset, postParse, exclude, node]

/-- The letter of an option with a value. -/
def Setting.letter? : Setting → Option Char
  | dest => some 'd'
  | charset => some 'c'
  | _ => none

/-- The long names of a switch. -/
def Switch.names : Switch → List String
  | amd => ["amd"]
  | knownOnly => ["known-only", "knownOnly"]
  | simple => ["simple"]
  | asPartial => ["partial"]
  | dryRun => ["dry-run"]

/-- The switches. -/
def Switch.all : List Switch := [amd, knownOnly, simple, asPartial, dryRun]

/-- What one word can say. -/
inductive Saying where
  | setting (setting : Setting) (text : String)
  | switch (switch : Switch)
  | source (path : Path)
  deriving DecidableEq

/-- A word says something before `--`. The values are attached. -/
inductive Writes : Saying → String → Prop
  | long {setting : Setting} {name text : String} : name ∈ setting.names →
      Writes (.setting setting text) ("--" ++ name ++ "=" ++ text)
  | short {setting : Setting} {letter : Char} {text : String} : setting.letter? = some letter → text ≠ "" →
      Writes (.setting setting text) (String.ofList ['-', letter, '='] ++ text)
  | switch {switch : Switch} {name : String} : name ∈ switch.names → Writes (.switch switch) ("--" ++ name)
  | source {path : Path} : path.toList.head? ≠ some '-' → Writes (.source path) path

/-- Words say something, each its own, and those behind `--` are sources. -/
inductive Spells : List Saying → List String → Prop
  | nothing : Spells [] []
  | word {saying : Saying} {word : String} {sayings : List Saying} {words : List String} :
      Writes saying word → Spells sayings words → Spells (saying :: sayings) (word :: words)
  | rest (paths : List Path) : Spells (paths.map .source) ("--" :: paths)

/-! ### Looks -/

/-- A name ends with the word or at an equals sign. -/
theorem span_name {name rest : List Char} (h : '=' ∉ name) (hrest : ∀ c ∈ rest.head?, c = '=') :
    (name ++ rest).span (· != '=') = (name, rest) := by
  have hname : ∀ c ∈ name, (c != '=') = true := fun c hc => bne_iff_ne.mpr fun heq => h (heq ▸ hc)
  rw [List.span_eq_takeWhile_dropWhile, List.takeWhile_append_of_pos hname, List.dropWhile_append_of_pos hname]
  cases rest with
  | nil => simp
  | cons c rest =>
    obtain rfl : c = '=' := hrest c rfl
    simp

theorem Shape.of_dashes {word : String} {rest : List Char} (hword : word.toList = '-' :: '-' :: rest)
    (hrest : rest ≠ []) : Shape.of word =
      match rest.span (· != '=') with
      | (name, _ :: value) => .long (String.ofList name) (some (String.ofList value))
      | (name, []) => .long (String.ofList name) none := by
  unfold Shape.of
  rw [hword]
  cases rest with
  | nil => exact absurd rfl hrest
  | cons c rest => rfl

theorem Shape.of_long_value {name text : String} (h : '=' ∉ name.toList) :
    Shape.of ("--" ++ name ++ "=" ++ text) = .long name (some text) := by
  have hword : ("--" ++ name ++ "=" ++ text).toList = '-' :: '-' :: (name.toList ++ '=' :: text.toList) := by
    simp
  rw [of_dashes hword (by simp), span_name h (by simp)]
  simp

theorem Shape.of_long {name : String} (h : '=' ∉ name.toList) (hname : name ≠ "") :
    Shape.of ("--" ++ name) = .long name none := by
  have hword : ("--" ++ name).toList = '-' :: '-' :: (name.toList ++ []) := by simp
  rw [of_dashes hword (by simpa using hname), span_name h (by simp)]
  simp

theorem Shape.of_short {letter : Char} {text : String} (h : letter ≠ '-') :
    Shape.of (String.ofList ['-', letter, '='] ++ text) = .short (letter :: '=' :: text.toList) := by
  have hword : (String.ofList ['-', letter, '='] ++ text).toList = '-' :: letter :: '=' :: text.toList := by simp
  unfold Shape.of
  rw [hword]
  split
  · next heq => simp at heq
  · next heq => simp [h] at heq
  · next heq => cases heq; rfl
  · next hother => exact absurd rfl (hother _ _)

theorem Shape.of_plain {word : String} (h : word.toList.head? ≠ some '-') : Shape.of word = .plain := by
  unfold Shape.of
  split
  · next heq => simp [heq] at h
  · next heq => simp [heq] at h
  · next heq => simp [heq] at h
  · rfl

/-! ### What is said -/

namespace Setting

/-- Whether an option may be given more than once. -/
def isRepeatable : Setting → Bool
  | known | exclude => true
  | _ => false

/-- Whether the value of an option is a path. -/
def isPath : Setting → Bool
  | config | dest | postParse => true
  | _ => false

end Setting

namespace Saying

/-- The value that an option is said to have. -/
def value? (setting : Setting) : Saying → Option String
  | .setting own text => if setting = own then some text else none
  | _ => none

/-- The source that is said to be there. -/
def source? : Saying → Option Path
  | source path => some path
  | _ => none

/-- What is said added to arguments. -/
def tell (a : Arguments) : Saying → Except Usage Arguments
  | setting own text => a.set own text
  | switch own => a.switchOn own
  | source path => a.addSources [path]

end Saying

namespace Arguments

variable {a b : Arguments} {setting : Setting} {switch : Switch} {text : String}

/-- The values of an option, in their order. -/
def written (a : Arguments) : Setting → List String
  | .config => a.config.toList
  | .dest => a.dest.toList
  | .commonjs => a.commonjs.toList
  | .handlebarPath => a.handlebarPath.toList
  | .known => a.known
  | .registry => a.registry.toList
  | .root => a.root.toList
  | .extension => a.extension.toList
  | .charset => a.charset.toList
  | .postParse => a.postParse.toList
  | .exclude => a.exclude
  | .node => a.node.toList

/-- Whether a switch is on. -/
def isOn (a : Arguments) : Switch → Bool
  | .amd => a.amd
  | .knownOnly => a.knownOnly
  | .simple => a.simple
  | .asPartial => a.asPartial
  | .dryRun => a.dryRun

/-- Everything in arguments that is a path. -/
def paths (a : Arguments) : List Path := a.sources ++ (a.config.toList ++ a.dest.toList ++ a.postParse.toList)

/-- Arguments are what is said, in whatever order: the values of each option in their order, each switch that is
on once, and the sources in their order. -/
structure IsSaidBy (a : Arguments) (sayings : List Saying) : Prop where
  settings : ∀ setting, sayings.filterMap (Saying.value? setting) = a.written setting
  switches : ∀ switch, sayings.count (.switch switch) = if a.isOn switch then 1 else 0
  sources : sayings.filterMap Saying.source? = a.sources
  verbose : a.verbose = 0

theorem length_written_le (a : Arguments) (h : setting.isRepeatable = false) : (a.written setting).length ≤ 1 := by
  have hoption : ∀ value : Option String, value.toList.length ≤ 1 := fun value => by cases value <;> simp
  cases setting <;> first | exact hoption _ | cases h

theorem mem_paths (h : setting.isPath = true) (htext : text ∈ a.written setting) : text ∈ a.paths := by
  cases setting <;> cases h <;> simp only [written, Option.mem_toList] at htext <;> simp [paths, htext]

/-- Arguments are known by their values, their switches, their sources and the count of `-v`. -/
theorem eq_of_written (hwritten : a.written = b.written) (hon : a.isOn = b.isOn) (hsources : a.sources = b.sources)
    (hverbose : a.verbose = b.verbose) : a = b := by
  have hvalue : ∀ setting, a.written setting = b.written setting := congrFun hwritten
  have hswitch : ∀ switch, a.isOn switch = b.isOn switch := congrFun hon
  have hoption : ∀ {x y : Option String}, x.toList = y.toList → x = y := fun {x y} h => by
    cases x <;> cases y <;> simp_all
  cases a
  cases b
  rw [Arguments.mk.injEq]
  exact ⟨hoption (hvalue .config), hverbose, hsources, hoption (hvalue .dest), hoption (hvalue .commonjs),
    hoption (hvalue .handlebarPath), hvalue .known, hoption (hvalue .registry), hoption (hvalue .root),
    hoption (hvalue .extension), hoption (hvalue .charset), hoption (hvalue .postParse), hvalue .exclude,
    hoption (hvalue .node), hswitch .amd, hswitch .knownOnly, hswitch .simple, hswitch .asPartial, hswitch .dryRun⟩

theorem IsSaidBy.unique {sayings : List Saying} (ha : a.IsSaidBy sayings) (hb : b.IsSaidBy sayings) : a = b := by
  refine eq_of_written (funext fun setting => ?_) (funext fun switch => ?_) (ha.sources.symm.trans hb.sources)
    (ha.verbose.trans hb.verbose.symm)
  · exact (ha.settings setting).symm.trans (hb.settings setting)
  · have hcount := (ha.switches switch).symm.trans (hb.switches switch)
    cases hx : a.isOn switch <;> cases hy : b.isOn switch <;> simp [hx, hy] at hcount ⊢

theorem once_none (text : String) : once none text = .ok (some text) := rfl

theorem pathOnce_none (h : text ≠ "") : pathOnce none text = .ok (some text) := by
  simp [pathOnce, h]

/-- Arguments gain what is said, and everything else stays. -/
structure Gains (a : Arguments) (saying : Saying) (b : Arguments) : Prop where
  written : ∀ setting, b.written setting = a.written setting ++ [saying].filterMap (Saying.value? setting)
  switches : ∀ switch, (if b.isOn switch then 1 else 0) =
    (if a.isOn switch then 1 else 0) + [saying].count (.switch switch)
  sources : b.sources = a.sources ++ [saying].filterMap Saying.source?
  verbose : b.verbose = a.verbose

/-- Setting a value adds it to those of its option. -/
theorem set_ok (hfree : setting.isRepeatable = false → a.written setting = [])
    (htext : setting.isPath = true → text ≠ "") :
    ∃ b, a.set setting text = .ok b ∧ a.Gains (.setting setting text) b := by
  -- An option that takes one value has none yet; a list takes any more.
  cases setting <;>
    simp only [Setting.isRepeatable, Setting.isPath, written, Option.toList_eq_nil_iff, ne_eq, forall_const,
      Bool.true_eq_false, Bool.false_eq_true, IsEmpty.forall_iff] at hfree htext <;>
    simp only [set, hfree, once_none, pathOnce_none, htext, Except.map, ne_eq, not_false_eq_true]
  all_goals
    refine ⟨_, rfl, fun other => ?_, fun switch => ?_, (List.append_nil _).symm, rfl⟩
    · cases other <;> simp [written, hfree, Saying.value?]
    · cases switch <;> rfl

theorem switchOn_ok (h : a.isOn switch = false) :
    ∃ b, a.switchOn switch = .ok b ∧ a.Gains (.switch switch) b := by
  cases switch <;> simp only [isOn] at h <;> simp only [switchOn, h]
  all_goals
    refine ⟨_, rfl, fun setting => ?_, fun other => ?_, (List.append_nil _).symm, rfl⟩
    · cases setting <;> exact (List.append_nil _).symm
    · cases other <;> first | rfl | simp [isOn, h]

theorem addSources_ok {path : Path} (h : path ≠ "") :
    ∃ b, a.addSources [path] = .ok b ∧ a.Gains (.source path) b := by
  refine ⟨{a with sources := a.sources ++ [path]}, ?_, fun setting => ?_, fun switch => ?_, rfl, rfl⟩
  · simp [addSources, h.symm]
  · cases setting <;> exact (List.append_nil _).symm
  · cases switch <;> rfl

/-- Sources added one after another are added together. -/
theorem addSources_append {first second : List Path} {c : Arguments} (hfirst : a.addSources first = .ok b)
    (hsecond : b.addSources second = .ok c) : a.addSources (first ++ second) = .ok c := by
  unfold addSources at hfirst hsecond ⊢
  split at hfirst
  · cases hfirst
  next hone =>
    cases hfirst
    split at hsecond
    · cases hsecond
    next htwo =>
      cases hsecond
      simp_all

namespace IsSaidBy

variable {before after sayings : List Saying} {saying : Saying}

theorem nothing : empty.IsSaidBy [] :=
  ⟨fun setting => by cases setting <;> rfl, fun switch => by cases switch <;> rfl, rfl, rfl⟩

theorem gain {c : Arguments} (hb : b.IsSaidBy before) (hgains : b.Gains saying c) :
    c.IsSaidBy (before ++ [saying]) where
  settings setting := by rw [List.filterMap_append, hb.settings, hgains.written]
  switches switch := by rw [List.count_append, hb.switches, hgains.switches]
  sources := by rw [List.filterMap_append, hb.sources, hgains.sources]
  verbose := hgains.verbose.trans hb.verbose

/-- What is said next can be added, if it is said of arguments that can be written. -/
theorem tell (hb : b.IsSaidBy before) (ha : a.IsSaidBy (before ++ saying :: after))
    (hpaths : ∀ path ∈ a.paths, path ≠ "") : ∃ c, saying.tell b = .ok c ∧ b.Gains saying c := by
  cases saying with
  | setting setting text =>
    have hall : b.written setting ++ text :: after.filterMap (Saying.value? setting) = a.written setting := by
      rw [← hb.settings, ← ha.settings]
      simp [Saying.value?]
    apply set_ok
    · intro honce
      have hlength := a.length_written_le honce
      rw [← hall, List.length_append, List.length_cons] at hlength
      exact List.eq_nil_of_length_eq_zero (by omega)
    · intro hpath
      exact hpaths text (mem_paths hpath (hall ▸ by simp))
  | switch switch =>
    apply switchOn_ok
    have hcount : before.count (.switch switch) + (after.count (.switch switch) + 1) =
        if a.isOn switch then 1 else 0 := by
      rw [← ha.switches, List.count_append, List.count_cons_self]
    rw [← Bool.not_eq_true]
    intro hon
    rw [hb.switches, if_pos hon] at hcount
    split at hcount <;> omega
  | source path =>
    apply addSources_ok
    apply hpaths path
    refine List.mem_append_left _ ?_
    rw [← ha.sources]
    simp [Saying.source?]

/-- Everything that is said of arguments comes to them, whatever has been said already. -/
theorem told_from (hb : b.IsSaidBy before) (ha : a.IsSaidBy (before ++ after))
    (hpaths : ∀ path ∈ a.paths, path ≠ "") : after.foldlM Saying.tell b = .ok a := by
  induction after generalizing before b with
  | nil =>
    rw [List.append_nil] at ha
    rw [hb.unique ha]
    rfl
  | cons saying after ih =>
    obtain ⟨c, htell, hgains⟩ := hb.tell ha hpaths
    rw [List.foldlM_cons, htell]
    exact ih (hb.gain hgains) (by rwa [List.append_assoc])

theorem told (ha : a.IsSaidBy sayings) (hpaths : ∀ path ∈ a.paths, path ≠ "") :
    sayings.foldlM Saying.tell empty = .ok a := nothing.told_from ha hpaths

end IsSaidBy

end Arguments

/-! ### What is read -/

namespace Reading

variable {r : Reading} {a b : Arguments} {isLiteral : Bool} {setting : Setting} {switch : Switch} {text word : String}
  {path : Path} {saying : Saying} {sayings : List Saying} {words : List String}

/-- The arguments that what has been read comes to. -/
def settled (r : Reading) : Except Usage Arguments :=
  match r.pending with
  | .nothing => .ok r.arguments
  | .option _ => .error .invalidValue
  | .value setting text => r.arguments.set setting text
  | .sources sources => r.arguments.addSources sources

/-- What has been read comes to arguments once it is settled, and `--` is behind it or not. -/
def Settles (r : Reading) (a : Arguments) (isLiteral : Bool) : Prop := r.settle = .ok ⟨a, .nothing, isLiteral⟩

theorem settles_iff : r.Settles a isLiteral ↔ r.settled = .ok a ∧ r.isLiteral = isLiteral := by
  have hsettle : r.settle = r.settled >>= fun arguments => pure ⟨arguments, .nothing, r.isLiteral⟩ := by
    unfold settle settled
    cases r.pending <;> rfl
  rw [Settles, hsettle, Action.bind_eq_ok_iff]
  simp [pure, Except.pure]

theorem start_settles : start.Settles .empty false := rfl

theorem settles_of_nothing (a : Arguments) (isLiteral : Bool) : Settles ⟨a, .nothing, isLiteral⟩ a isLiteral := rfl

namespace Settles

/-- Where nothing waits for its value, a value can be attached. -/
theorem attached (h : r.Settles a isLiteral) (hset : a.set setting text = .ok b) :
    ∃ next, r.attached setting text = .ok next ∧ next.Settles b isLiteral := by
  refine ⟨⟨b, .nothing, isLiteral⟩, ?_, settles_of_nothing b isLiteral⟩
  exact Action.bind_eq_ok_iff.mpr ⟨_, h, Action.bind_eq_ok_iff.mpr ⟨b, hset, rfl⟩⟩

theorem flag (h : r.Settles a isLiteral) (hswitch : a.switchOn switch = .ok b) :
    ∃ next, r.flag .compile (.switch switch) = .ok next ∧ next.Settles b isLiteral := by
  refine ⟨⟨b, .nothing, isLiteral⟩, ?_, settles_of_nothing b isLiteral⟩
  exact Action.bind_eq_ok_iff.mpr ⟨_, h, Action.bind_eq_ok_iff.mpr ⟨b, hswitch, rfl⟩⟩

/-- One more source is settled along with those that are pending. -/
theorem readSource (h : r.Settles a isLiteral) (hadd : a.addSources [path] = .ok b) :
    ∃ next, r.readSource path = .ok next ∧ next.Settles b isLiteral := by
  obtain ⟨hsettled, hmode⟩ := settles_iff.mp h
  unfold Reading.readSource
  split
  next sources hpending =>
    rw [settled, hpending] at hsettled
    exact ⟨_, rfl, settles_iff.mpr ⟨Arguments.addSources_append hsettled hadd, hmode⟩⟩
  next =>
    refine ⟨⟨a, .sources [path], isLiteral⟩, Action.bind_eq_ok_iff.mpr ⟨_, h, rfl⟩, ?_⟩
    exact settles_iff.mpr ⟨hadd, rfl⟩

/-- A plain word is a source unless an option waits for it. -/
theorem readPlain (h : r.Settles a isLiteral) (hadd : a.addSources [path] = .ok b) :
    ∃ next, r.readPlain Reading.readSource path = .ok next ∧ next.Settles b isLiteral := by
  unfold Reading.readPlain
  split
  next setting hpending =>
    obtain ⟨hsettled, _⟩ := settles_iff.mp h
    rw [settled, hpending] at hsettled
    cases hsettled
  next => exact h.readSource hadd

/-- One word takes along what it says. -/
theorem step (h : r.Settles a false) (hwrites : Writes saying word) (htell : saying.tell a = .ok b) :
    ∃ next, r.step word = .ok next ∧ next.Settles b false := by
  obtain ⟨_, hmode⟩ := settles_iff.mp h
  rw [Reading.step, hmode]
  cases hwrites with
  | @long setting name text hname =>
    have hoption : '=' ∉ name.toList ∧ Level.compile.long? name = some (.setting setting) := by
      revert name
      cases setting <;> decide
    rw [Shape.of_long_value hoption.1]
    show ∃ next, r.readLong .compile name (some text) = .ok next ∧ next.Settles b false
    unfold readLong
    rw [hoption.2]
    exact h.attached htell
  | @short setting letter text hletter _ =>
    have hoption : letter ≠ '-' ∧ Level.compile.short? letter = some (.setting setting) := by
      cases setting <;> cases hletter <;> decide
    rw [Shape.of_short hoption.1]
    show ∃ next, r.readShort .compile (letter :: '=' :: text.toList) = .ok next ∧ next.Settles b false
    unfold readShort
    rw [hoption.2]
    show ∃ next, r.attached setting (String.ofList text.toList) = .ok next ∧ next.Settles b false
    rw [String.ofList_toList]
    exact h.attached htell
  | @switch switch name hname =>
    have hoption : ('=' ∉ name.toList ∧ name ≠ "") ∧ Level.compile.long? name = some (.switch switch) := by
      revert name
      cases switch <;> decide
    rw [Shape.of_long hoption.1.1 hoption.1.2]
    show ∃ next, r.readLong .compile name none = .ok next ∧ next.Settles b false
    unfold readLong
    rw [hoption.2]
    exact h.flag htell
  | source hplain =>
    rw [Shape.of_plain hplain]
    exact h.readPlain htell

/-- Behind `--` every word is a source. -/
theorem sources {paths : List Path} (h : r.Settles a true)
    (htell : (paths.map Saying.source).foldlM Saying.tell a = .ok b) :
    ∃ next, paths.foldlM Reading.step r = .ok next ∧ next.Settles b true := by
  induction paths generalizing r a with
  | nil =>
    cases htell
    exact ⟨r, rfl, h⟩
  | cons path paths ih =>
    rw [List.map_cons, List.foldlM_cons] at htell
    obtain ⟨c, hadd, htell⟩ := Action.bind_eq_ok_iff.mp htell
    obtain ⟨next, hread, hnext⟩ := h.readSource hadd
    have hstep : r.step path = .ok next := by rw [Reading.step, (settles_iff.mp h).2, if_pos rfl, hread]
    rw [List.foldlM_cons, hstep]
    exact ih hnext htell

/-- Words take along what they say, one after another. -/
theorem spelled (h : r.Settles a false) (hspells : Spells sayings words)
    (htell : sayings.foldlM Saying.tell a = .ok b) :
    ∃ next, words.foldlM Reading.step r = .ok next ∧ ∃ isLiteral, next.Settles b isLiteral := by
  induction hspells generalizing r a with
  | nothing =>
    cases htell
    exact ⟨r, rfl, false, h⟩
  | word hwrites _ ih =>
    rw [List.foldlM_cons] at htell
    obtain ⟨c, hsaid, htell⟩ := Action.bind_eq_ok_iff.mp htell
    obtain ⟨next, hstep, hnext⟩ := h.step hwrites hsaid
    rw [List.foldlM_cons, hstep]
    exact ih hnext htell
  | rest paths =>
    obtain ⟨hsettled, hmode⟩ := settles_iff.mp h
    have hescape : r.step "--" = .ok {r with isLiteral := true} := by
      rw [Reading.step, hmode]
      rfl
    have hliteral : Settles {r with isLiteral := true} a true := settles_iff.mpr ⟨hsettled, rfl⟩
    obtain ⟨next, hread, hnext⟩ := hliteral.sources htell
    rw [List.foldlM_cons, hescape]
    exact ⟨next, hread, true, hnext⟩

end Settles
end Reading

/-! ### Reading back -/

variable {words : List String}

theorem Arguments.empty_within (inner : Arguments) : empty.within inner = inner := by
  have hverbose : (if inner.verbose == 0 then 0 else inner.verbose) = inner.verbose := by
    split
    next heq => exact (beq_iff_eq.mp heq).symm
    next => rfl
  simp only [within, empty, Option.or_none, hverbose]

/-- Where `compile` comes first, it is all about the words behind it. -/
theorem ofWords_compile (words : List String) : Arguments.ofWords ("compile" :: words) = readCompile words := by
  have hread : Arguments.ofWords ("compile" :: words) =
      readCompile words >>= fun inner => .ok (Arguments.empty.within inner) := rfl
  simp only [hread, Arguments.empty_within]
  cases readCompile words <;> rfl

/-- All that arguments are, said option by option. -/
def Arguments.sayings (a : Arguments) : List Saying :=
  Setting.all.flatMap (fun setting => (a.written setting).map (.setting setting)) ++
    (Switch.all.filter a.isOn).map .switch

theorem filterMap_value_map {setting own : Setting} {texts : List String} :
    (texts.map (Saying.setting own)).filterMap (Saying.value? setting) = if setting = own then texts else [] := by
  rw [List.filterMap_map]
  split <;> simp_all [Function.comp_def, Saying.value?]

theorem Arguments.isSaidBy_sayings {a : Arguments} (h : a.verbose = 0) :
    a.IsSaidBy (a.sayings ++ a.sources.map .source) where
  settings setting := by
    have hothers : ((Switch.all.filter a.isOn).map Saying.switch ++ a.sources.map Saying.source).filterMap
        (Saying.value? setting) = [] := by
      simp [List.filterMap_eq_nil_iff, Saying.value?]
    rw [sayings, List.append_assoc, List.filterMap_append, hothers, List.append_nil, List.filterMap_flatMap]
    simp only [filterMap_value_map]
    cases setting <;> simp [Setting.all]
  switches switch := by
    have hothers : (Setting.all.flatMap fun setting => (a.written setting).map (Saying.setting setting)).count
        (Saying.switch switch) = 0 := by
      simp [List.count_eq_zero]
    have hsources : (a.sources.map Saying.source).count (Saying.switch switch) = 0 := by
      simp [List.count_eq_zero]
    have hinjective : Function.Injective Saying.switch := fun _ _ heq => Saying.switch.inj heq
    have hall : Switch.all.count switch = 1 := by cases switch <;> decide
    rw [sayings, List.count_append, List.count_append, hothers, hsources, List.count_map_of_injective _ _ hinjective]
    cases hon : a.isOn switch
    · simp [List.count_eq_zero, hon]
    · simp [List.count_filter hon, hall]
  sources := by
    simp [sayings, Saying.source?, List.filterMap_flatMap, Function.comp_def]
  verbose := h

/-- Where everything said can be written, words can be found for it. -/
theorem exists_spells {sayings : List Saying} (h : ∀ saying ∈ sayings, ∃ word, Writes saying word)
    (paths : List Path) : ∃ words, Spells (sayings ++ paths.map .source) words := by
  induction sayings with
  | nil => exact ⟨_, .rest paths⟩
  | cons saying sayings ih =>
    obtain ⟨⟨word, hword⟩, hrest⟩ := List.forall_mem_cons.mp h
    obtain ⟨words, hwords⟩ := ih hrest
    exact ⟨word :: words, .word hword hwords⟩

theorem Arguments.exists_writes {a : Arguments} {saying : Saying} (h : saying ∈ a.sayings) :
    ∃ word, Writes saying word := by
  rcases List.mem_append.mp h with hvalue | hswitch
  · obtain ⟨setting, _, hvalue⟩ := List.mem_flatMap.mp hvalue
    obtain ⟨text, _, rfl⟩ := List.mem_map.mp hvalue
    cases setting <;> exact ⟨_, .long List.mem_cons_self⟩
  · obtain ⟨switch, _, rfl⟩ := List.mem_map.mp hswitch
    cases switch <;> exact ⟨_, .switch List.mem_cons_self⟩

/-- **What is written is read.** Arguments with a source, and without an empty path, are read back from any words
that say just what they are: each value that is set, attached to one of the names of its option, each switch that
is on, once, each value of a list and each source, in their order, but otherwise in any order, and perhaps the
last sources behind `--`. There are such words for all arguments of this kind. -/
theorem words_read_back (a : Arguments) (hverbose : a.verbose = 0) (hsources : a.sources ≠ [])
    (hpaths : ∀ path ∈ a.paths, path ≠ "") :
    (∃ sayings words, a.IsSaidBy sayings ∧ Spells sayings words) ∧
    ∀ sayings words, a.IsSaidBy sayings → Spells sayings words → Arguments.ofWords ("compile" :: words) = .ok a := by
  refine ⟨?_, fun sayings words hsaid hspells => ?_⟩
  · obtain ⟨words, hwords⟩ := exists_spells (fun _ => a.exists_writes) a.sources
    exact ⟨_, words, a.isSaidBy_sayings hverbose, hwords⟩
  · obtain ⟨r, hread, isLiteral, hsettles⟩ := Reading.start_settles.spelled hspells (hsaid.told hpaths)
    have hsome : a.sources.isEmpty = false := List.isEmpty_eq_false_iff.mpr hsources
    calc Arguments.ofWords ("compile" :: words)
      _ = (do
            let r ← r.settle
            if r.arguments.sources.isEmpty then throw .missingSource
            return r.arguments) := by rw [ofWords_compile, readCompile, hread]; rfl
      _ = .ok a := by rw [hsettles]; simp [hsome, bind, Except.bind, pure, Except.pure]

end CommandLine

open CommandLine

/-- Arguments whose values look like options, or are empty. -/
def Sample.dashed : Arguments :=
  {Arguments.empty with
    sources := ["views", "-", "--amd"], dest := some "=-x", commonjs := some "", handlebarPath := some "--dest=y",
    known := ["", "--", "each"], knownOnly := true, charset := some "Latin1", dryRun := true}

/-- What is said of them, mixed. -/
def Sample.dashedSayings : List Saying :=
  [.setting .known "", .setting .dest "=-x", .source "views", .switch .knownOnly, .setting .known "--",
    .setting .handlebarPath "--dest=y", .setting .charset "Latin1", .setting .known "each", .switch .dryRun,
    .setting .commonjs ""] ++ ["-", "--amd"].map .source

theorem Sample.spells_dashed : Spells Sample.dashedSayings
    ["--known=", "-d==-x", "views", "--knownOnly", "--known=--", "--handlebarPath=--dest=y", "-c=Latin1",
      "--known=each", "--dry-run", "--commonjs=", "--", "-", "--amd"] := by
  refine .word (@Writes.long .known "known" "" (by decide)) ?_
  refine .word (@Writes.short .dest 'd' "=-x" rfl (by decide)) ?_
  refine .word (.source (by decide)) ?_
  refine .word (@Writes.switch .knownOnly "knownOnly" (by decide)) ?_
  refine .word (@Writes.long .known "known" "--" (by decide)) ?_
  refine .word (@Writes.long .handlebarPath "handlebarPath" "--dest=y" (by decide)) ?_
  refine .word (@Writes.short .charset 'c' "Latin1" rfl (by decide)) ?_
  refine .word (@Writes.long .known "known" "each" (by decide)) ?_
  refine .word (@Writes.switch .dryRun "dry-run" (by decide)) ?_
  refine .word (@Writes.long .commonjs "commonjs" "" (by decide)) ?_
  exact .rest ["-", "--amd"]

theorem Sample.dashed_isSaidBy : Sample.dashed.IsSaidBy Sample.dashedSayings where
  settings setting := by cases setting <;> decide
  switches switch := by cases switch <;> decide
  sources := by decide
  verbose := rfl

/-- Values that look like options, or are empty, are read back as they are, and so are sources that look like
options behind `--`. -/
theorem CommandLine.words_read_back_dashed :
    Sample.dashed.verbose = 0 ∧ Sample.dashed.sources ≠ [] ∧ (∀ path ∈ Sample.dashed.paths, path ≠ "") ∧
    Arguments.ofWords ("compile" :: ["--known=", "-d==-x", "views", "--knownOnly", "--known=--",
      "--handlebarPath=--dest=y", "-c=Latin1", "--known=each", "--dry-run", "--commonjs=", "--", "-", "--amd"]) =
        .ok Sample.dashed := by
  have hsources : Sample.dashed.sources ≠ [] := by decide
  have hpaths : ∀ path ∈ Sample.dashed.paths, path ≠ "" := by decide
  obtain ⟨_, hread⟩ := words_read_back Sample.dashed rfl hsources hpaths
  exact ⟨rfl, hsources, hpaths, hread _ _ Sample.dashed_isSaidBy Sample.spells_dashed⟩

end Precompiler
