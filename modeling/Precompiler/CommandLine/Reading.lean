import Precompiler.CommandLine.Arguments

/-! Words read.

Words are read from left to right. A value that stands in a word of its own, and the
sources, are only *pending* until another option is recognised or the words are over;
what is wrong with them comes to light then. So an unknown option is reported before an
empty source in front of it, but after an empty value attached to its option. -/
namespace Precompiler.CommandLine

/-- What a word with dashes can mean. -/
inductive Opt where
  | setting (setting : Setting)
  | switch (switch : Switch)
  | verbose
  | help
  | version
  deriving Repr, DecidableEq

/-- Before a command is named, or behind `compile`. -/
inductive Level where
  | program
  | compile
  deriving Repr, DecidableEq

namespace Level

/-- The options known everywhere, by their long names. -/
def commonOptions : List (String × Opt) :=
  [("config", .setting .config), ("verbose", .verbose), ("help", .help), ("version", .version)]

/-- The options of the command, by their long names. -/
def compileOptions : List (String × Opt) :=
  [("dest", .setting .dest), ("amd", .switch .amd), ("commonjs", .setting .commonjs),
    ("handlebar-path", .setting .handlebarPath), ("handlebarPath", .setting .handlebarPath),
    ("known", .setting .known), ("known-only", .switch .knownOnly), ("knownOnly", .switch .knownOnly),
    ("namespace", .setting .registry), ("simple", .switch .simple), ("root", .setting .root),
    ("partial", .switch .asPartial), ("extension", .setting .extension),
    ("charset", .setting .charset), ("post-parse", .setting .postParse),
    ("exclude", .setting .exclude), ("node", .setting .node), ("dry-run", .switch .dryRun)]

/-- The option with a long name. -/
def long? : Level → String → Option Opt
  | program, name => commonOptions.lookup name
  | compile, name => (commonOptions ++ compileOptions).lookup name

/-- The option with a short name. -/
def short? (level : Level) (c : Char) : Option Opt :=
  match c, level with
  | 'v', _ => some .verbose
  | 'h', _ => some .help
  | 'V', _ => some .version
  | 'd', compile => some (.setting .dest)
  | 'c', compile => some (.setting .charset)
  | _, _ => none

/-- The name under which a level shows its version. -/
def commandName : Level → String
  | program => "hbsc"
  | compile => "hbsc-compile"

end Level

/-- What is not settled yet. -/
inductive Pending where
  | nothing
  /-- An option whose value has not come yet. -/
  | option (setting : Setting)
  | value (setting : Setting) (text : String)
  | sources (sources : List Path)
  deriving Repr, DecidableEq

/-- The words read so far on a level. -/
structure Reading where
  arguments : Arguments
  pending : Pending
  /-- Whether `--` has been read, after which every word is a source. -/
  isLiteral : Bool
  deriving Repr, DecidableEq

/-- How a word looks. -/
inductive Shape where
  | plain
  /-- Two dashes and nothing else. -/
  | escape
  | long (name : String) (value : Option String)
  | short (letters : List Char)

/-- The look of a word. A dash alone is a plain word. -/
def Shape.of (word : String) : Shape :=
  match word.toList with
  | ['-', '-'] => .escape
  | '-' :: '-' :: rest =>
    match rest.span (· != '=') with
    | (name, _ :: value) => .long (String.ofList name) (some (String.ofList value))
    | (name, []) => .long (String.ofList name) none
  | '-' :: c :: rest => .short (c :: rest)
  | _ => .plain

namespace Reading

/-- Nothing read. -/
def start : Reading := ⟨.empty, .nothing, false⟩

/-- Settles what is pending. -/
def settle (r : Reading) : Except Usage Reading := do
  let arguments ← match r.pending with
    | .nothing => pure r.arguments
    | .option _ => throw .invalidValue
    | .value setting text => r.arguments.set setting text
    | .sources sources => r.arguments.addSources sources
  return { r with arguments, pending := .nothing }

def flag (level : Level) (r : Reading) (opt : Opt) : Except Usage Reading := do
  let r ← r.settle
  match opt with
  | .setting setting => return { r with pending := .option setting }
  | .switch switch => return { r with arguments := ← r.arguments.switchOn switch }
  | .verbose => return { r with arguments := r.arguments.countVerbose }
  | .help => throw .help
  | .version => throw (.version level.commandName)

/-- An option with a value attached. -/
def attached (r : Reading) (setting : Setting) (text : String) : Except Usage Reading := do
  let r ← r.settle
  return { r with arguments := ← r.arguments.set setting text }

def readLong (level : Level) (r : Reading) (name : String) (value : Option String) :
    Except Usage Reading :=
  match level.long? name, value with
  | none, _ => .error .unknownOption
  | some (.setting setting), some text => r.attached setting text
  | some _, some _ => .error .surplusValue
  | some opt, none => r.flag level opt

/-- A bundle of short options; the first that takes a value takes what is left of it, with
or without an equals sign in front. -/
def readShort (level : Level) (r : Reading) : List Char → Except Usage Reading
  | [] => .ok r
  | c :: rest =>
    match level.short? c with
    | none => .error .unknownOption
    | some (.setting setting) =>
      match rest with
      | [] => r.flag level (.setting setting)
      | '=' :: text => r.attached setting (String.ofList text)
      | text => r.attached setting (String.ofList text)
    | some opt => do readShort level (← r.flag level opt) rest

def readSource (r : Reading) (word : String) : Except Usage Reading :=
  match r.pending with
  | .sources sources => .ok { r with pending := .sources (sources ++ [word]) }
  | _ => do return { ← r.settle with pending := .sources [word] }

/-- A word that is the value of an option in front of it, or else is left to `other`. -/
def readPlain (r : Reading) (other : Reading → String → Except Usage Reading) (word : String) :
    Except Usage Reading :=
  match r.pending with
  | .option setting => .ok { r with pending := .value setting word }
  | _ => other r word

/-- One word behind `compile`. -/
def step (r : Reading) (word : String) : Except Usage Reading :=
  if r.isLiteral then r.readSource word
  else
    match Shape.of word with
    | .escape => .ok { r with isLiteral := true }
    | .long name value => r.readLong .compile name value
    | .short letters => r.readShort .compile letters
    | .plain => r.readPlain readSource word

end Reading

/-- What the words behind `compile` say. -/
def readCompile (words : List String) : Except Usage Arguments := do
  let r ← (← words.foldlM Reading.step .start).settle
  if r.arguments.sources.isEmpty then throw .missingSource
  return r.arguments

/-- What is said behind the command replaces what was said before it. -/
def Arguments.within (outer inner : Arguments) : Arguments :=
  { inner with
    config := inner.config.or outer.config
    verbose := if inner.verbose == 0 then outer.verbose else inner.verbose }

/-- The answer to `help` and the words behind it. -/
def helpOn : List String → Usage
  | [] | ["compile"] | ["help"] => .help
  | _ => .unknownCommand

/-- Whether anything was said before a command. -/
def Reading.isEmpty (r : Reading) : Bool := r.arguments == .empty

/-- The words of a program, up to its command and behind it. -/
def readProgram (r : Reading) : List String → Except Usage Arguments
  | [] => do
    let r ← r.settle
    throw (if r.isEmpty then .nothingGiven else .missingCommand)
  | word :: rest =>
    if r.isLiteral then
      .error (if word == "compile" || word == "help" then .unknownOption else .unknownCommand)
    else
      match Shape.of word, r.pending with
      | .escape, _ => readProgram { r with isLiteral := true } rest
      | .long name value, _ => do readProgram (← r.readLong .program name value) rest
      | .short letters, _ => do readProgram (← r.readShort .program letters) rest
      | .plain, .option setting => readProgram { r with pending := .value setting word } rest
      | .plain, _ =>
        if word == "compile" then do
          let inner ← readCompile rest
          return (← r.settle).arguments.within inner
        else if word == "help" then .error (helpOn rest)
        else .error .unknownCommand

/-- What the words after the program's name say. -/
def Arguments.ofWords (words : List String) : Except Usage Arguments := readProgram .start words

end Precompiler.CommandLine
