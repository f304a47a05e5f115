import Precompiler.Shell.Word

/-! Commands read.

A list of commands is made of chains, a chain of pipelines, and a pipeline of commands; each
is read in terms of how lists and words within it are read, and lists nest up to a limit. -/
namespace Precompiler.Shell

open Precompiler.Text (Scan)

/-- The text of a here-document is taken from the lines below the present one. -/
def hereText (list : Scan Command) (word : Scan Word) : Scan Word := do
  let stripping ← Scan.skip? ['-']
  blanks
  let delimiter ← word
  let name := delimiter.flatMap fun
    | .text chars _ => chars
    | _ => []
  let isLiteral := delimiter.any fun
    | .text _ isQuoted => isQuoted
    | _ => false
  let (line, below) := (← Scan.rest).span (· != '\n')
  let tidy (l : Text) := if stripping then l.dropWhile (· == '\t') else l
  let (body, after) := ((below.drop 1).splitOn '\n').span fun l => tidy l != name
  set (line ++ '\n' :: ['\n'].intercalate (after.drop 1))
  let text := body.flatMap fun l => tidy l ++ ['\n']
  if isLiteral then return [.text text true]
  else
    match Scan.whole? (Scan.repeated (quotedPart list none)) text with
    | some parts => return parts
    | none => failure

def redirection (list : Scan Command) (word : Scan Word) : Scan Redirection := do
  let digits ← Scan.many Char.isDigit
  match ← Scan.next with
  | '<' =>
    if ← Scan.skip? ['<'] then return .fromText (← hereText list word)
    blanks
    return .fromFile (← word)
  | '>' =>
    let descriptor := match digits with
      | d :: _ => d.toNat - 48
      | [] => 1
    if ← Scan.skip? ['&'] then
      return .toDescriptor descriptor ((← Scan.sat Char.isDigit).toNat - 48)
    let extending ← Scan.skip? ['>']
    blanks
    return .toFile descriptor extending (← word)
  | _ => failure

/-- An assignment: a name, directly followed by an equals sign and perhaps a word. -/
def assignment (word : Scan Word) : Scan (Text × Word) := do
  let name ← Scan.some isNameChar
  Scan.char '='
  return (name, ← word <|> return [])

/-- A command with the redirections around it. -/
def redirect (body : Command) : List Redirection → Command
  | [] => body
  | redirections => .redirected body redirections

/-- One piece of a simple command behind its assignments. -/
def simplePiece (list : Scan Command) (word : Scan Word) : Scan (Word ⊕ Redirection) := do
  blanks
  (Sum.inr <$> redirection list word) <|> (Sum.inl <$> word)

def simpleCommand (list : Scan Command) (word : Scan Word) : Scan Command := do
  let below := (← Scan.rest).count '\n'
  let assignments ← Scan.repeated (do blanks; assignment word)
  let pieces ← Scan.repeated (simplePiece list word)
  if assignments.isEmpty && pieces.isEmpty then failure
  let words := pieces.filterMap fun
    | .inl w => some w
    | .inr _ => none
  let redirections := pieces.filterMap fun
    | .inr r => some r
    | .inl _ => none
  return redirect (.simple below assignments words) redirections

/-- The rest of a conditional after its first word, up to `fi`. -/
def conditionalWithin (list : Scan Command) : Nat → Scan Command
  | 0 => failure
  | n + 1 => do
    let test ← list
    keyword "then"
    let yes ← list
    (do
      keyword "elif"
      return .conditional test yes (← conditionalWithin list n)) <|>
    (do
      keyword "else"
      let no ← list
      keyword "fi"
      return .conditional test yes no) <|>
    (do
      keyword "fi"
      return .conditional test yes .idle)

def branch (list : Scan Command) (word : Scan Word) : Scan (List Word × Command) := do
  gap
  discard (Scan.skip? ['('])
  let patterns ← Scan.separated (do blanks; let w ← word; blanks; return w) (Scan.char '|')
  Scan.char ')'
  let body ← list
  gap
  return (patterns, body)

/-- A command that starts with a word of its own. -/
def compound (list : Scan Command) (word : Scan Word) : Scan Command :=
  (do keyword "if"; conditionalWithin list (← Scan.rest).length) <|>
  (do
    let whileSuccess ← (do keyword "while"; return true) <|> (do keyword "until"; return false)
    let test ← list
    keyword "do"
    let body ← list
    keyword "done"
    return .loop test whileSuccess body) <|>
  (do
    keyword "for"
    blanks
    let name ← Scan.some isNameChar
    let words ← (do keyword "in"; Scan.repeated (do blanks; word)) <|>
      return [[.variable ['@'] .value true]]
    discard (do blanks; Scan.char ';') <|> return ()
    keyword "do"
    let body ← list
    keyword "done"
    return .each name words body) <|>
  (do
    keyword "case"
    blanks
    let subject ← word
    keyword "in"
    let branches ← Scan.repeated (do
      let b ← branch list word
      Scan.exactly [';', ';']
      return b)
    let last ← (do return [← branch list word]) <|> return []
    keyword "esac"
    return .choice subject (branches ++ last)) <|>
  (do keyword "\x7b"; let body ← list; keyword "\x7d"; return body) <|>
  (do gap; Scan.char '('; let body ← list; gap; Scan.char ')'; return .subshell body)

def functionDefinition (list : Scan Command) (word : Scan Word) : Scan Command := do
  let name ← Scan.some isNameChar
  Scan.exactly ['(', ')']
  return .function name (← compound list word)

def command (list : Scan Command) (word : Scan Word) : Scan Command := do
  gap
  let ahead ← bareAhead
  if closers.contains ahead then failure
  (do
    let body ← compound list word
    return redirect body (← Scan.repeated (do blanks; redirection list word))) <|>
  functionDefinition list word <|>
  simpleCommand list word

/-- Commands joined by bars. -/
def pipeline (list : Scan Command) (word : Scan Word) : Scan Command := do
  let negated ← (do keyword "!"; return true) <|> return false
  let first ← command list word
  let others ← Scan.repeated (do
    blanks
    Scan.char '|'
    if (← Scan.peek?) == some '|' then failure
    command list word)
  let whole := others.foldl .pipe first
  return if negated then .negated whole else whole

/-- Pipelines joined by `&&` and `||`. -/
def chain (list : Scan Command) (word : Scan Word) : Scan Command := do
  let first ← pipeline list word
  let others ← Scan.repeated (do
    blanks
    let ifSuccess ← (do Scan.exactly ['&', '&']; return true) <|>
      (do Scan.exactly ['|', '|']; return false)
    return (ifSuccess, ← pipeline list word))
  return others.foldl (fun left (ifSuccess, right) => .chain left ifSuccess right) first

/-- What may stand between two commands of a list. -/
def separator : Scan Unit := do
  blanks
  let rest ← Scan.rest
  if [';', ';'].isPrefixOf rest then failure
  Scan.char ';' <|> Scan.char '\n' <|> Scan.char '&'

/-- A list of commands, with at most so many levels of commands in commands. -/
def listWithin : Nat → Scan Command
  | 0 => failure
  | n + 1 => do
    let list := listWithin n
    let commands ← Scan.repeated (do
      let c ← chain list (wordOf list)
      discard separator <|> return ()
      return c)
    return .sequence commands

/-- The levels of commands in commands that are read. -/
def maxLevels : Nat := 24

def Command.ofScript? (text : Text) : Option Command :=
  Scan.whole? (do let body ← listWithin maxLevels; gap; return body) text

end Precompiler.Shell
