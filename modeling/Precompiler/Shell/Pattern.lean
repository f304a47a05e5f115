import Precompiler.Shell.Regex.Reader

/-! Patterns: what a choice compares a word with, and what is trimmed off a value. -/
namespace Precompiler.Shell

/-- The steps of a pattern, in which quoted characters stand for themselves. -/
def patternSteps : Nat → List (Char × Bool) → List Regex
  | 0, _ => []
  | n + 1, text =>
    match text with
    | [] => []
    | ('*', false) :: rest => .many (.item .any) 0 none :: patternSteps n rest
    | ('?', false) :: rest => .item .any :: patternSteps n rest
    | ('[', false) :: rest =>
      match readClass ['!', '^'] (rest.map (·.1)) with
      | some (kind, after) => .item kind :: patternSteps n (rest.drop (rest.length - after.length))
      | none => .item (.one '[') :: patternSteps n rest
    | (c, _) :: rest => .item (.one c) :: patternSteps n rest

def matchesPattern (pattern : List (Char × Bool)) (text : Text) : Bool :=
  (Regex.ofList (patternSteps pattern.length pattern)).matchesWhole text

end Precompiler.Shell
