import Precompiler.Engine.Basic
import Precompiler.Engine.Response
import Precompiler.Text.Blank
import Precompiler.Text.Bytes

/-! Engines that run as processes.

A process is started for every request, takes it on standard input, and answers on standard
output. How the process ends is looked at before what it answers: a process that fails is
reported by its complaints, even if it has answered and even if it has not taken all of
the request. -/
namespace Precompiler

/-- A program to be started, with its arguments and with variables bound beside those that it finds anyway. -/
structure Invocation where
  program : String
  arguments : List String
  bindings : List (String × String)

/-- How a process went. -/
inductive Outcome where
  /-- There is no such program. -/
  | notFound
  /-- The program could not be started. -/
  | refused
  /-- The process has ended: whether well, whether it has taken the whole request, and
  what it wrote to its two outputs. -/
  | ended (success tookAll : Bool) (output errors : ByteArray)

namespace Outcome

def occursIn (part : List Char) : List Char → Bool
  | [] => part.isEmpty
  | c :: rest => part.isPrefixOf (c :: rest) || occursIn part rest

/-- What the complaints of a failed process mean. -/
def exitFailure (engineModule complaints : String) : Failure :=
  if occursIn "Cannot find module".toList complaints.toList then
    .missingTool engineModule engineModule
  else .compile "" (Text.trim complaints)

/-- What an answer gives. -/
def resultOf : Response → Except Failure Json
  | ⟨true, some result, _⟩ => .ok result
  | ⟨true, none, _⟩ => .error (.engineProtocol "response carried no result")
  | ⟨false, _, error⟩ => .error (.compile "" (error.getD "unknown engine error"))

/-- What the outcome of a request gives. -/
def result (program engineModule : String) : Outcome → Except Failure Json
  | notFound => .error (.missingTool program engineModule)
  | refused => .error (.io (.runningEngine program))
  | ended false _ _ errors => .error (exitFailure engineModule (Text.lossy errors.toList))
  | ended true false _ _ => .error (.io .writingRequest)
  | ended true true output _ =>
    match Response.ofBytes? output with
    | none => .error (.engineProtocol "decoding response")
    | some response => resultOf response

end Outcome

namespace Engine

def parseRequest (source : String) : Json := .obj [("op", .str "parse"), ("source", .str source)]

def precompileRequest (ast : Ast) (options : CompilerOptions) : Json :=
  .obj [("ast", ast), ("op", .str "precompile"), ("options", options.toJson)]

/-- A payload is a text. -/
def payloadOf : Json → Except Failure String
  | .str payload => .ok payload
  | other => .error (.engineProtocol ("expected precompiled source, got " ++ other.compact))

/-- The note before a process is started. -/
def spawnNote (program : String) (request : Json) : Note :=
  ⟨.trace, "spawning template engine",
    [("node", .plain program), ("bytes", .number request.compact.utf8ByteSize)]⟩

/-- The engine that runs a program for each request. -/
def ofProcess (program engineModule : String) (run : ByteArray → Outcome) : Engine :=
  let ask (request : Json) := (run request.compact.toUTF8).result program engineModule
  { parse := fun source => ask (parseRequest source)
    precompile := fun ast options => ask (precompileRequest ast options) >>= payloadOf
    parseNotes := fun source => [spawnNote program (parseRequest source)]
    precompileNotes := fun ast options => [spawnNote program (precompileRequest ast options)] }

/-- What the program runs: it reads a request, has the module carry it out, and writes the answer. -/
def driver : String := "
const handlebars = require(process.env.HBSC_HANDLEBARS_MODULE || 'handlebars');
let input = '';
process.stdin.setEncoding('utf8');
process.stdin.on('data', (chunk) => \x7b input += chunk; \x7d);
process.stdin.on('end', () => \x7b
  let response;
  try \x7b
    const request = JSON.parse(input);
    let result;
    if (request.op === 'parse') \x7b
      result = handlebars.parse(request.source);
    \x7d else if (request.op === 'precompile') \x7b
      result = handlebars.precompile(request.ast, request.options);
    \x7d else \x7b
      throw new Error('unknown operation ' + request.op);
    \x7d
    response = \x7b ok: true, result: result \x7d;
  \x7d catch (err) \x7b
    response = \x7b ok: false, error: String((err && err.message) || err) \x7d;
  \x7d
  process.stdout.write(JSON.stringify(response));
\x7d);
"

/-- How the program of an engine is started. -/
def invocation (program engineModule : String) : Invocation where
  program
  arguments := ["-e", driver]
  bindings := [("HBSC_HANDLEBARS_MODULE", engineModule)]

/-- The engine that a program and its module make. -/
def ofProgram (program engineModule : String) (start : Invocation → ByteArray → Outcome) : Engine :=
  ofProcess program engineModule (start (invocation program engineModule))

end Engine

end Precompiler
