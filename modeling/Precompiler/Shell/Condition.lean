import Precompiler.Files.Resolve
import Precompiler.Shell.Numeral

/-! Conditions on texts, numbers and files. -/
namespace Precompiler.Shell

/-- Whether a condition without `-a` and `-o` holds; none for one that is not understood. -/
def simpleCondition? (files : Files) : List Text → Option Bool
  | [] => some false
  | [word] => some (word != [])
  | [operator, word] =>
    let path := String.ofList word
    match String.ofList operator with
    | "-n" => some (word != [])
    | "-z" => some (word == [])
    | "-e" => some (files.exists? path)
    | "-f" => some (files.isFile path)
    | "-d" => some (files.isDirectory path)
    | "-r" | "-w" | "-x" => some (files.exists? path)
    | "-s" => some ((files.read? path).any (0 < ·.size))
    | "-t" => some false
    | "!" => some (word == [])
    | _ => none
  | [left, operator, right] =>
    let numbers (holds : Int → Int → Bool) : Option Bool :=
      if isInt left && isInt right then some (holds (intOf left) (intOf right)) else none
    match String.ofList operator with
    | "=" | "==" => some (left == right)
    | "!=" => some (left != right)
    | "-eq" => numbers (· == ·)
    | "-ne" => numbers (· != ·)
    | "-lt" => numbers (· < ·)
    | "-le" => numbers (· ≤ ·)
    | "-gt" => numbers (· > ·)
    | "-ge" => numbers (· ≥ ·)
    | _ => if left == ['!'] then (simpleCondition? files [operator, right]).map (!·) else none
  | word :: rest => if word == ['!'] then (simpleCondition? files rest).map (!·) else none

def condition? (files : Files) (words : List Text) : Option Bool :=
  if words.length ≤ 3 then simpleCondition? files words
  else do
    let any ← (words.splitOn "-o".toList).mapM fun alternative => do
      let all ← (alternative.splitOn "-a".toList).mapM (simpleCondition? files)
      return all.all id
    return any.any id

end Precompiler.Shell
