import Precompiler.Shell.Lines
import Precompiler.Shell.State

/-! What the tools of scripts have in common: how they take their options, where they read,
and how they complain. -/
namespace Precompiler.Shell

def splitOptions (arguments : List Text) : List Text × List Text :=
  arguments.span fun word => word.head? == some '-' && word.length > 1

/-- What a tool reads: the files that it names, or else the input. -/
def State.reading (s : State) (complaint : String → String) (paths : List Text) : Text × State :=
  if paths.isEmpty then (s.input, { s with input := [], status := 0 })
  else
    paths.foldl (fun (text, s) path =>
      if path == ['-'] then (text ++ s.input, { s with input := [] })
      else
        match s.fileText? path with
        | some more => (text ++ more, s)
        | none => (text, s.complaining 1 (complaint (String.ofList path)))) ([], s.ending 0)

/-- How a tool complains about a file that is not there. -/
def notThere (tool : String) (path : String) : String :=
  tool ++ ": " ++ path ++ ": No such file or directory"

/-- How a tool complains about a file that it cannot open. -/
def notOpened (tool : String) (path : String) : String :=
  tool ++ ": cannot open '" ++ path ++ "' for reading: No such file or directory"

/-- The state after a tool that writes what a function makes of its input. -/
def State.filtering (s : State) (tool : String) (paths : List Text) (f : Text → Text) : State :=
  let (text, s) := s.reading (notThere tool) paths
  { s with output := s.output ++ f text }

/-- The number that an option such as `-n 3` or `-3` gives, and the words behind it. -/
def countOption (arguments : List Text) : Char × Nat × List Text :=
  match arguments with
  | ['-', kind] :: count :: rest => (kind, (intOf count).toNat, rest)
  | ('-' :: kind :: digits) :: rest =>
    if kind.isDigit then ('n', (intOf (kind :: digits)).toNat, rest)
    else (kind, (intOf digits).toNat, rest)
  | rest => ('n', 10, rest)

/-- The words of arguments in which options may have a value of their own, given by the letters
`valued`: the options with their values, and the words behind them. -/
def readOptions (valued : Text) : List Text → List (Char × Text) × List Text
  | [] => ([], [])
  | ['-', '-'] :: rest => ([], rest)
  | ('-' :: letter :: more) :: rest =>
    if valued.contains letter then
      match more, rest with
      | [], value :: rest =>
        let (options, words) := readOptions valued rest
        ((letter, value) :: options, words)
      | more, rest =>
        let (options, words) := readOptions valued rest
        ((letter, more) :: options, words)
    else
      let (options, words) := readOptions valued rest
      ((letter :: more).map (·, []) ++ options, words)
  | words => ([], words)

/-- The options of arguments in any place, and the other words. -/
def readAllOptions (valued : Text) (arguments : List Text) : List (Char × Text) × List Text :=
  go (arguments.length + 1) arguments
where
  go : Nat → List Text → List (Char × Text) × List Text
    | 0, words => ([], words)
    | n + 1, words =>
      match readOptions valued words with
      | (options, []) => (options, [])
      | (options, word :: rest) =>
        let (others, words) := go n rest
        (options ++ others, word :: words)

end Precompiler.Shell
