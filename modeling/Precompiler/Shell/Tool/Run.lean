import Precompiler.Shell.Condition
import Precompiler.Shell.Tool.Filter

/-! The tools that scripts are made of.

Each takes the state of a run and its arguments to the state after it: what it writes, what it
complains of, and whether it succeeds. -/
namespace Precompiler.Shell.Tool

def echo (s : State) (arguments : List Text) : State :=
  let (isOpen, words) := match arguments with
    | ['-', 'n'] :: rest => (true, rest)
    | rest => (false, rest)
  let text := [' '].intercalate words
  s.writing (unescape text.length text ++ if isOpen then [] else ['\n'])

def printf (s : State) (arguments : List Text) : State :=
  let arguments := if arguments.head? == some ['-', '-'] then arguments.drop 1 else arguments
  if arguments.isEmpty then s.objecting 2 "printf: usage: printf format [arg ...]" else
  let (text, faults) := formatAll (arguments.length + 1) (arguments.headD []) (arguments.drop 1)
  let s := s.writing text
  faults.foldl (fun s fault =>
    s.objecting 1 ("printf: " ++ String.ofList fault ++ ": expected numeric value")) s

/-- A line up to its end, in which a backslash keeps the character behind it, and joins the line
with the next one; each character comes with whether it was kept. Last comes the rest, and
whether the line had an end. -/
def logicalLine (isRaw : Bool) : Text → List (Char × Bool) × Text × Bool
  | [] => ([], [], false)
  | '\n' :: rest => ([], rest, true)
  | '\\' :: c :: rest =>
    if isRaw then
      let (line, rest, isEnded) := logicalLine isRaw (c :: rest)
      (('\\', false) :: line, rest, isEnded)
    else
      let (line, rest, isEnded) := logicalLine isRaw rest
      (if c == '\n' then line else (c, true) :: line, rest, isEnded)
  | c :: rest =>
    let (line, rest, isEnded) := logicalLine isRaw rest
    ((c, false) :: line, rest, isEnded)

/-- Reads a line into variables; the last one takes what is left of it. -/
def read (s : State) (arguments : List Text) : State :=
  let (options, names) := splitOptions arguments
  let separators := (s.value? "IFS".toList).getD [' ', '\t', '\n']
  let isSeparator (c : Char × Bool) : Bool := !c.2 && separators.contains c.1
  let isSpace (c : Char × Bool) : Bool := isSeparator c && (isBlank c.1 || c.1 == '\n')
  let trimEnd (line : List (Char × Bool)) : List (Char × Bool) :=
    (line.reverse.dropWhile isSpace).reverse
  let (line, rest, isEnded) := logicalLine (options.contains ['-', 'r']) s.input
  let rec assign : List Text → List (Char × Bool) → State → State
    | [], _, s => s
    | [name], text, s => s.setVariable name ((trimEnd text).map (·.1))
    | name :: names, text, s =>
      let (word, after) := text.span (!isSeparator ·)
      let after := match after.dropWhile isSpace with
        | c :: others => if isSpace c || !isSeparator c then c :: others else others.dropWhile isSpace
        | [] => []
      assign names after (s.setVariable name (word.map (·.1)))
  let s := assign names (line.dropWhile isSpace) { s with input := rest }
  s.succeeding isEnded

/-- Writes numbers in turn. -/
def seq (s : State) (arguments : List Text) : State :=
  let numbers := match arguments.map intOf with
    | [high] => numbersFrom 1 1 high
    | [low, high] => numbersFrom low 1 high
    | [low, step, high] => numbersFrom low step high
    | _ => []
  s.writing (ofLines (numbers.map fun n => (toString n).toList) true)

def test (s : State) (name : String) (arguments : List Text) : State :=
  match condition? s.files arguments, arguments with
  | some holds, _ => s.succeeding holds
  | none, [left, operator, right] =>
    if operator.head? == some '-' then
      let fault := if isInt left then right else left
      s.objecting 2 (name ++ ": Illegal number: " ++ String.ofList fault)
    else s.objecting 2 (name ++ ": " ++ String.ofList operator ++ ": unexpected operator")
  | none, _ => s.ending 2

/-- The state after `exit` or `return`: how the last command ended, or the given number. -/
def leaving (s : State) (name : String) (flow : Flow) : List Text → State
  | [] => { s with flow }
  | code :: _ =>
    if code.all Char.isDigit && !code.isEmpty then
      { s with flow, status := (intOf code % 256).toNat }
    else (s.objecting 2 (name ++ ": Illegal number: " ++ String.ofList code)).stopping

def baseText (path : Text) : Text :=
  (((path.reverse.dropWhile (· == '/')).takeWhile (· != '/'))).reverse

def directoryText (path : Text) : Text :=
  let before := (((path.reverse.dropWhile (· == '/')).dropWhile (· != '/')))
  if before.isEmpty then (if path.head? == some '/' then ['/'] else ['.'])
  else
    let directory := before.dropWhile (· == '/')
    if directory.isEmpty then ['/'] else directory.reverse

def assign (s : State) (arguments : List Text) : State :=
  (arguments.foldl (fun s word =>
    match word.span (· != '=') with
    | (name, _ :: value) => s.setVariable name value
    | _ => s) s).ending 0

/-- Sets the parameters, or how strict the script is. -/
def set (s : State) (arguments : List Text) : State :=
  match arguments with
  | ['-', '-'] :: rest => { s with parameters := rest }.ending 0
  | ('-' :: flags) :: _ => { s with isStrict := s.isStrict || flags.contains 'e' }.ending 0
  | ('+' :: flags) :: _ => { s with isStrict := s.isStrict && !flags.contains 'e' }.ending 0
  | _ => s.ending 0

/-- Sends a signal; the only process that takes it is the script's own. -/
def kill (s : State) (arguments : List Text) : State :=
  if arguments.head? == some ['-', '0'] then s.ending 0
  else if arguments.getLast? == some (natText processNumber) then
    { s with flow := .exit, status := 137 }
  else s.ending 1

/-- The state after a tool, if there is one of that name. -/
def run? (name : String) (arguments : List Text) (s : State) : Option State :=
  match name with
  | ":" | "true" | "sleep" | "trap" | "wait" | "umask" => some (s.ending 0)
  | "false" => some (s.ending 1)
  | "echo" => some (echo s arguments)
  | "printf" => some (printf s arguments)
  | "read" => some (read s arguments)
  | "seq" => some (seq s arguments)
  | "test" => some (test s name arguments)
  | "[" => some (test s name arguments.dropLast)
  | "export" | "local" | "readonly" => some (assign s arguments)
  | "unset" => some ({ s with bindings := s.bindings.filter fun v => !arguments.contains v.1 }.ending 0)
  | "set" => some (set s arguments)
  | "shift" =>
    let count := match arguments with
      | [] => 1
      | n :: _ => (intOf n).toNat
    some ({ s with parameters := s.parameters.drop count }.ending 0)
  | "exit" => some (leaving s name .exit arguments)
  | "return" => some (leaving s name .leaveFunction arguments)
  | "break" => some { s with flow := .leaveLoop, status := 0 }
  | "continue" => some { s with flow := .nextRound, status := 0 }
  | "kill" => some (kill s arguments)
  | "pwd" => some (s.writing (("/" ++ "/".intercalate (s.files.here.getD [])).toList ++ ['\n']))
  | "basename" =>
    let name := baseText (arguments.headD [])
    let ending := (arguments[1]?).getD []
    let short := if ending != name && ending.isSuffixOf name then
      name.take (name.length - ending.length) else name
    some (s.writing (short ++ ['\n']))
  | "dirname" => some (s.writing (directoryText (arguments.headD []) ++ ['\n']))
  | name => filter? name arguments s

end Precompiler.Shell.Tool
