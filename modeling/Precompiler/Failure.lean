/-! What can go wrong.

Every cause of failure is one constructor. How a cause is worded, and what is advised
about it, is decided here and nowhere else; the words of the operating system and of
parsers are not part of a message. -/
namespace Precompiler

/-- What the program was doing when the operating system refused. -/
inductive Activity where
  | findingDirectory
  | reading (path : String)
  | readingHook (label : String)
  | walking (source : String)
  | creatingDirectory (path : String)
  | creatingTemporary (directory : String)
  | writing (path : String)
  | runningEngine (program : String)
  | writingRequest
  deriving Repr, DecidableEq

namespace Activity

def message : Activity → String
  | findingDirectory => "getting current directory"
  | reading path => s!"reading {path}"
  | readingHook label => s!"reading post-parse hook {label}"
  | walking source => s!"walking {source}"
  | creatingDirectory path => s!"creating directory {path}"
  | creatingTemporary directory => s!"creating temporary file in {directory}"
  | writing path => s!"writing {path}"
  | runningEngine program => s!"running {program}"
  | writingRequest => "writing request to the template engine"

end Activity

/-- Why a run stops. -/
inductive Failure where
  /-- The config file that was asked for is not there. -/
  | configNotFound (path : String)
  /-- A config file is not well-formed, or one of its settings has the wrong type. -/
  | configParse (path : String)
  /-- A list of extensions without an entry. -/
  | invalidExtension (list : String)
  /-- An exclude pattern is not well-formed. -/
  | globPattern (pattern : String)
  | sourceNotFound (path : String)
  | unsupportedCharset (name : String)
  /-- Bytes that are no text in a charset, or a text that a charset cannot hold. -/
  | encoding (action path charset : String)
  | io (activity : Activity)
  /-- A program or a module that has to be installed. -/
  | missingTool (name install : String)
  /-- The engine rejects a template. -/
  | compile (file message : String)
  /-- The engine breaks the rules of the exchange. -/
  | engineProtocol (message : String)
  /-- A hook script does not compile, or it fails on a syntax tree. -/
  | postParse (hook message : String)
  deriving Repr, DecidableEq

namespace Failure

/-- The line that reports a failure. -/
def message : Failure → String
  | configNotFound path => s!"Config file not found at {path}"
  | configParse path => s!"Failed to parse {path}"
  | invalidExtension list => s!"Invalid extension list '{list}': no extensions given"
  | globPattern pattern => s!"Glob pattern error: {pattern}"
  | sourceNotFound path => s!"Source not found: {path}"
  | unsupportedCharset name => s!"Unsupported charset '{name}'"
  | encoding action path charset => s!"Cannot {action} {path} as {charset}"
  | io activity => s!"IO error: {activity.message}"
  | missingTool name _ => s!"Required tool '{name}' was not found"
  | compile file text => s!"Template compilation failed for {file}: {text}"
  | engineProtocol text => s!"Unexpected response from the template engine: {text}"
  | postParse hook text => s!"Post-parse hook '{hook}' failed: {text}"

/-- What the user is advised to do, for the failures that have a usual remedy. -/
def help : Failure → Option String
  | configNotFound _ => some "Pass an existing file to --config or drop the flag"
  | configParse _ => some "Check the TOML syntax of the config file"
  | invalidExtension _ => some "Use a '|'-separated list of suffixes, e.g. handlebars|hbs"
  | unsupportedCharset _ => some "Supported charsets: utf-8, latin1"
  | missingTool _ install =>
    some ("Install Node.js and run \x60npm install " ++ install ++ "\x60, or pass --node")
  | compile .. => some "Check the Handlebars syntax of the template"
  | postParse .. => some "Check the Rhai script; its last expression must be the AST"
  | globPattern _ | sourceNotFound _ | encoding .. | io _ | engineProtocol _ => none

/-- A rejected template is reported under the name of its file, whatever the engine calls
it; every other failure stays as it is. -/
def blaming (file : String) : Failure → Failure
  | compile _ text => compile file text
  | other => other

end Failure

end Precompiler
