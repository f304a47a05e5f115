import Precompiler.Shell.Expansion
import Precompiler.Shell.Reader
import Precompiler.Shell.Tool.Run

/-! Scripts run.

A command takes a state to a state. What redirections ask for is gathered into a plan first;
the body then runs with an empty output, and the plan says where what it has written goes. -/
namespace Precompiler.Shell

/-! ### Redirections -/

/-- Where something written goes. -/
inductive Sink where
  | output
  | errors
  | nowhere
  deriving DecidableEq

/-- What redirections ask for: a new input, and where output and complaints go. -/
structure Plan where
  input : Option Text
  output : Sink
  errors : Sink
  /-- A file that should be read is not there. -/
  isBroken : Bool

/-- A plan with one redirection more. What is written to a file is of no interest to
anyone but the script. -/
def redirectOne (run : Command → State → State) (state : Plan × State) : Redirection → Plan × State
  | .toFile descriptor _ target =>
    let (_, s) := expandWord run state.2 target
    (if descriptor == 2 then { state.1 with errors := .nowhere }
      else { state.1 with output := .nowhere }, s)
  | .toDescriptor descriptor other =>
    let sink := if other == 2 then state.1.errors else state.1.output
    (if descriptor == 2 then { state.1 with errors := sink } else { state.1 with output := sink },
      state.2)
  | .fromFile target =>
    let (path, s) := expandWord run state.2 target
    match s.fileText? (plain path) with
    | some text => ({ state.1 with input := some text }, s)
    | none =>
      ({ state.1 with isBroken := true },
        s.objecting 2 ("cannot open " ++ String.ofList (plain path) ++ ": No such file"))
  | .fromText word =>
    let (text, s) := expandWord run state.2 word
    ({ state.1 with input := some (plain text) }, s)

/-- What of two texts goes to a sink. -/
def Plan.gathered (plan : Plan) (sink : Sink) (output errors : Text) : Text :=
  (if plan.output = sink then output else []) ++ (if plan.errors = sink then errors else [])

/-! ### Commands -/

/-- Whether nobody looks at how a command ends, so that a strict script ends with its failure. -/
def isUnguarded : Command → Bool
  | .simple .. | .pipe .. | .redirected .. | .subshell _ => true
  | _ => false

/-- Commands run in turn, as long as none of them leads elsewhere. -/
def runAll (run : Command → State → State) (s : State) : List Command → State
  | [] => s
  | c :: rest =>
    let s := run c s
    if s.flow != .onward then s
    else if s.isStrict && s.status != 0 && isUnguarded c then s.stopping
    else runAll run s rest

/-- A run whose end is looked at, so that no failure in it ends a strict script. -/
def runGuarded (run : Command → State → State) (command : Command) (s : State) : State :=
  { run command { s with isStrict := false } with isStrict := s.isStrict }

def assignAll (run : Command → State → State) (s : State) (assignments : List (Text × Word)) :
    State :=
  assignments.foldl (fun s (name, word) =>
    let (value, s) := expandWord run s word
    s.setVariable name (plain value)) s

/-- The branch of a choice whose pattern matches a text first. -/
def chosen (run : Command → State → State) (subject : Text) (s : State) :
    List (List Word × Command) → Option Command
  | [] => none
  | (patterns, body) :: rest =>
    if patterns.any fun word => matchesPattern (expandWord run s word).1 subject then some body
    else chosen run subject s rest

/-- Runs what a name stands for: a function, a tool, or one of the words that run other
commands. -/
def runNamed (run : Command → State → State) (name : Text) (arguments : List Text) (s : State) :
    State :=
  match s.functions.lookup name with
  | some body =>
    let inner := run body { s with parameters := arguments }
    { inner with
      parameters := s.parameters
      flow := if inner.flow = .leaveFunction then .onward else inner.flow }
  | none =>
    match String.ofList name, arguments with
    | "exec", [] => s.ending 0
    | "exec", name :: arguments => (runTool name arguments s).stopping
    | "command", name :: arguments => runTool name arguments s
    | "eval", words => runText (run · s) ([' '].intercalate words)
    | "sh", ['-', 'c'] :: script :: parameters =>
      let inner := runText (fun body =>
        run body { s with parameters := parameters.drop 1 }) script
      { s.fromSubshell inner with output := inner.output }
    | _, _ => runTool name arguments s
where
  runTool (name : Text) (arguments : List Text) (s : State) : State :=
    match Tool.run? (String.ofList name) arguments s with
    | some after => after
    | none => s.objecting 127 (String.ofList name ++ ": not found")
  runText (run : Command → State) (text : Text) : State :=
    match Command.ofScript? text with
    | some body => run body
    | none => s.objecting 2 "syntax error"

/-- A command run, with at most `n` levels and rounds below it. -/
def runCommand : Nat → Command → State → State
  | 0, _, s => { s with flow := .exit, status := 124 }
  | n + 1, command, s =>
    let run := runCommand n
    match command with
    | .sequence commands => runAll run s commands
    | .simple below assignments words =>
      let s := { s with line := s.lines - below }
      let (fields, s) := expandWords run s words
      let outer := s.bindings
      let s := assignAll run s assignments
      if s.flow != .onward then s
      else
        match fields with
        | [] => if assignments.any (hasSubstitution ·.2) then s else s.ending 0
        | name :: arguments =>
          let after := runNamed run name arguments s
          let isAssigned (binding : Text × Text) : Bool := (assignments.lookup binding.1).isSome
          { after with
            bindings := outer.filter isAssigned ++ after.bindings.filter (!isAssigned ·) }
    | .redirected body redirections =>
      let s := match body with
        | .simple below .. => { s with line := s.lines - below }
        | _ => s
      let (plan, s) := redirections.foldl (redirectOne run) (⟨none, .output, .errors, false⟩, s)
      if plan.isBroken then s else
      let inner := run body { s with input := plan.input.getD s.input, output := [], errors := [] }
      { inner with
        input := if plan.input.isSome then s.input else inner.input
        output := s.output ++ plan.gathered .output inner.output inner.errors
        errors := s.errors ++ plan.gathered .errors inner.output inner.errors }
    | .pipe left right =>
      let first := run left { s with output := [] }
      let second := run right { s with input := first.output, errors := first.errors }
      { s with
        input := first.input
        output := second.output
        errors := second.errors
        status := second.status }
    | .chain left ifSuccess right =>
      let s := runGuarded run left s
      if s.flow = .onward && (s.status == 0) == ifSuccess then run right s else s
    | .negated body =>
      let s := runGuarded run body s
      s.succeeding (s.status != 0)
    | .conditional test yes no =>
      let s := runGuarded run test s
      if s.flow != .onward then s
      else if s.status == 0 then run yes s
      else run no (s.ending 0)
    | .loop test whileSuccess body =>
      let tested := runGuarded run test s
      if tested.flow != .onward then tested
      else if (tested.status == 0) != whileSuccess then tested.ending 0
      else
        let after := run body tested
        match after.flow with
        | .leaveLoop => { after with flow := .onward }
        | .onward | .nextRound =>
          runCommand n (.loop test whileSuccess body) { after with flow := .onward }
        | _ => after
    | .each name words body =>
      let (fields, s) := expandWords run s words
      let after := fields.foldl (fun s value =>
        if s.flow != .onward then s
        else
          let s := run body (s.setVariable name value)
          if s.flow = .nextRound then { s with flow := .onward } else s) s
      if after.flow = .leaveLoop then { after with flow := .onward } else after
    | .choice word branches =>
      let (subject, s) := expandWord run s word
      match chosen run (plain subject) s branches with
      | some body => run body s
      | none => s.ending 0
    | .subshell body =>
      let inner := run body s
      { s.fromSubshell inner with output := inner.output }
    | .function name body => { s with functions := (name, body) :: s.functions, status := 0 }

/-- The levels and rounds that a script may take. -/
def maxRounds : Nat := 1000000

/-- How a script ends: whether it succeeds, what it leaves of its input unread, and what it
writes. -/
structure Ending where
  success : Bool
  unread : Text
  output : Text
  errors : Text

def runScript (files : Files) (program : Text) (bindings : List (Text × Text))
    (parameters : List Text) (script input : Text) : Ending :=
  match Command.ofScript? script with
  | none => ⟨false, input, [], program ++ ": syntax error\n".toList⟩
  | some command =>
    let s := runCommand maxRounds command
      ⟨program, script.count '\n' + 1, 1, false, files, bindings, [], parameters, input, [], [], 0, .onward⟩
    ⟨s.status == 0, s.input, s.output, s.errors⟩

end Precompiler.Shell
