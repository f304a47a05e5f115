import Precompiler.Shell.Format
import Precompiler.Shell.Regex.Reader

/-! Written sets of characters, and characters that take one another's place. -/
namespace Precompiler.Shell

/-- A set of characters written with ranges and named classes. -/
def characters : Nat → Text → Text
  | 0, _ => []
  | n + 1, text =>
    let range (low high : Char) : Text :=
      (List.range' low.toNat (high.toNat + 1 - low.toNat)).map Char.ofNat
    match text with
    | [] => []
    | '[' :: ':' :: rest =>
      let (name, after) := rest.span (· != ':')
      match namedRanges (String.ofList name), after with
      | first :: others, ':' :: ']' :: after =>
        (first :: others).flatMap (fun (low, high) => range low high) ++ characters n after
      | _, _ => '[' :: characters n (':' :: rest)
    | low :: '-' :: high :: rest =>
      if low == '\\' then low :: characters n ('-' :: high :: rest)
      else range low high ++ characters n rest
    | c :: rest => c :: characters n rest

def characterSet (text : Text) : Text :=
  let plain := unescape text.length text
  characters plain.length plain

/-- The character that takes another's place; the last one of a short list serves for all
that follow. -/
def exchanged (source target : Text) (c : Char) : Char :=
  match (source.zipIdx).lookup c with
  | some i => ((target[i]?).or target.getLast?).getD c
  | none => c

end Precompiler.Shell
