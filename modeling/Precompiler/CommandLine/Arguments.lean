import Precompiler.Path

/-! What the words of a command line can say.

Some options set a value, some switch something on, and `-v` counts. The values that name a
path must not be empty. A value may be set once, apart from the lists, which grow. -/
namespace Precompiler.CommandLine

/-- Why the words of a command line make no command, or are answered without one. -/
inductive Usage where
  | help
  /-- The version of the command of this name. -/
  | version (command : String)
  /-- There is neither an option nor a command. -/
  | nothingGiven
  | missingCommand
  | unknownCommand
  | missingSource
  | unknownOption
  /-- A value is missing, or empty where it must not be. -/
  | invalidValue
  /-- A switch is given a value. -/
  | surplusValue
  /-- An option is given twice. -/
  | repeated
  deriving Repr, DecidableEq

namespace Usage

/-- What the program can be asked for. -/
def helpText : String :=
  "Compile Handlebars templates into JavaScript template modules\n\n" ++
  "Usage: hbsc [OPTIONS] compile [OPTIONS] <SRC>...\n\n" ++
  "Options:\n" ++
  "      --config <CONFIG>        Path to a config file (default: ./hbsc.toml when present)\n" ++
  "  -v, --verbose...             Verbosity level (-v, -vv)\n" ++
  "  -d, --dest <DEST>            Destination file or directory\n" ++
  "      --amd                    Export AMD style (require.js)\n" ++
  "      --commonjs <MODULE>      Export CommonJS style, path to the Handlebars module\n" ++
  "      --handlebar-path <PATH>  Path to handlebars.js (only valid for AMD style)\n" ++
  "      --known <NAME>           Known helpers (can be repeated)\n" ++
  "      --known-only             Known helpers only\n" ++
  "      --namespace <NS>         Template namespace\n" ++
  "      --simple                 Output the template function only\n" ++
  "      --root <PATH>            Template root, stripped from template names\n" ++
  "      --partial                Compile partial templates\n" ++
  "      --extension <EXTLIST>    Template extensions, separated by '|'\n" ++
  "  -c, --charset <ENCODING>     File encoding\n" ++
  "      --post-parse <SCRIPT>    Rhai script that changes each parsed template\n" ++
  "      --exclude <GLOB>         Skip files matching this glob inside source directories\n" ++
  "      --node <BIN>             Program that runs the Handlebars compiler\n" ++
  "      --dry-run                Print the compiled output instead of writing files\n" ++
  "  -h, --help                   Print help\n" ++
  "  -V, --version                Print version\n"

def versionNumber : String := "0.1.0"

/-- What is shown on standard output. -/
def text : Usage → String
  | version command => command ++ " " ++ versionNumber ++ "\n"
  | help => helpText
  | _ => ""

/-- Help and version end well, everything else is a mistake of usage. -/
def exitCode : Usage → Nat
  | help | version _ => 0
  | _ => 2

end Usage

/-- The options that take a value. -/
inductive Setting where
  | config
  | dest
  | commonjs
  | handlebarPath
  | known
  | registry
  | root
  | extension
  | charset
  | postParse
  | exclude
  | node
  deriving Repr, DecidableEq

/-- The options that switch something on. -/
inductive Switch where
  | amd
  | knownOnly
  | simple
  | asPartial
  | dryRun
  deriving Repr, DecidableEq

/-- Everything that the words of a command line have said. -/
structure Arguments where
  config : Option Path
  verbose : Nat
  sources : List Path
  dest : Option Path
  commonjs : Option String
  handlebarPath : Option String
  known : List String
  registry : Option String
  root : Option String
  extension : Option String
  charset : Option String
  postParse : Option Path
  exclude : List String
  node : Option String
  amd : Bool
  knownOnly : Bool
  simple : Bool
  asPartial : Bool
  dryRun : Bool
  deriving Repr, DecidableEq

namespace Arguments

/-- Nothing said. -/
def empty : Arguments where
  config := none
  verbose := 0
  sources := []
  dest := none
  commonjs := none
  handlebarPath := none
  known := []
  registry := none
  root := none
  extension := none
  charset := none
  postParse := none
  exclude := []
  node := none
  amd := false
  knownOnly := false
  simple := false
  asPartial := false
  dryRun := false

/-- A value for something that has none yet. -/
def once (old : Option String) (text : String) : Except Usage (Option String) :=
  match old with
  | some _ => .error .repeated
  | none => .ok (some text)

/-- A path for something that has none yet. -/
def pathOnce (old : Option Path) (path : Path) : Except Usage (Option Path) :=
  match old with
  | some _ => .error .repeated
  | none => if path == "" then .error .invalidValue else .ok (some path)

def set (a : Arguments) (setting : Setting) (text : String) : Except Usage Arguments :=
  match setting with
  | .config => (pathOnce a.config text).map fun v => { a with config := v }
  | .dest => (pathOnce a.dest text).map fun v => { a with dest := v }
  | .commonjs => (once a.commonjs text).map fun v => { a with commonjs := v }
  | .handlebarPath => (once a.handlebarPath text).map fun v => { a with handlebarPath := v }
  | .known => .ok { a with known := a.known ++ [text] }
  | .registry => (once a.registry text).map fun v => { a with registry := v }
  | .root => (once a.root text).map fun v => { a with root := v }
  | .extension => (once a.extension text).map fun v => { a with extension := v }
  | .charset => (once a.charset text).map fun v => { a with charset := v }
  | .postParse => (pathOnce a.postParse text).map fun v => { a with postParse := v }
  | .exclude => .ok { a with exclude := a.exclude ++ [text] }
  | .node => (once a.node text).map fun v => { a with node := v }

/-- Switches something on that is still off. -/
def switchOn (a : Arguments) (switch : Switch) : Except Usage Arguments :=
  let on (old : Bool) (changed : Arguments) := if old then .error .repeated else .ok changed
  match switch with
  | .amd => on a.amd { a with amd := true }
  | .knownOnly => on a.knownOnly { a with knownOnly := true }
  | .simple => on a.simple { a with simple := true }
  | .asPartial => on a.asPartial { a with asPartial := true }
  | .dryRun => on a.dryRun { a with dryRun := true }

/-- Adds sources, none of them empty. -/
def addSources (a : Arguments) (sources : List Path) : Except Usage Arguments :=
  if sources.contains "" then .error .invalidValue else .ok { a with sources := a.sources ++ sources }

/-- Counts one more `-v`, as far as a byte goes. -/
def countVerbose (a : Arguments) : Arguments := { a with verbose := min (a.verbose + 1) 255 }

end Arguments

end Precompiler.CommandLine
