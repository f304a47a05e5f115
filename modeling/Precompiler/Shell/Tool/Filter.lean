import Precompiler.Shell.Characters
import Precompiler.Shell.Editing
import Precompiler.Shell.Tool.Basic

/-! Tools that make another text of what they read. -/
namespace Precompiler.Shell.Tool

/-- Counts lines, words and bytes. -/
def wc (s : State) (arguments : List Text) : State :=
  let (options, paths) := splitOptions arguments
  let flags := (options.flatMap (·.drop 1))
  let (text, s) := s.reading (notThere "wc") paths
  let wanted : List Nat :=
    (if flags.isEmpty || flags.contains 'l' then [(text.filter (· == '\n')).length] else []) ++
      (if flags.isEmpty || flags.contains 'w' then [countWords text] else []) ++
      (if flags.isEmpty || flags.contains 'c' || flags.contains 'm' then [text.length] else [])
  let width := if wanted.length == 1 then 0 else 7
  let numbers := wanted.map fun n => List.replicate (width - (natText n).length) ' ' ++ natText n
  let names := if paths.isEmpty then [] else [[' '].intercalate paths]
  let line := [' '].intercalate (numbers ++ names) ++ ['\n']
  if s.status != 0 then s else s.writing line

/-- Replaces, deletes or squeezes characters. -/
def tr (s : State) (arguments : List Text) : State :=
  let (options, sets) := splitOptions arguments
  let flags := options.flatMap (·.drop 1)
  let first := characterSet (sets.headD [])
  let second := characterSet ((sets[1]?).getD [])
  let isInverse := flags.contains 'c' || flags.contains 'C'
  let isChosen (c : Char) := first.contains c != isInverse
  let squeezed (isMeant : Char → Bool) (text : Text) : Text :=
    (text.foldl (fun done c => if done.head? == some c && isMeant c then done else c :: done) []).reverse
  let changed (c : Char) : Char :=
    if !isChosen c then c
    else if isInverse then second.getLast?.getD c else exchanged first second c
  s.filtering "tr" [] fun text =>
    if flags.contains 'd' then text.filter fun c => !isChosen c
    else if sets.length == 1 then if flags.contains 's' then squeezed isChosen text else text
    else
      let text := text.map changed
      if flags.contains 's' then squeezed second.contains text else text

def sed (s : State) (arguments : List Text) : State :=
  let (options, rest) := readOptions ['e'] arguments
  let isExtended := options.any fun (o, _) => o == 'E' || o == 'r'
  let given := options.filterMap fun (o, value) => if o == 'e' then some value else none
  let (script, paths) :=
    if given.isEmpty then (rest.headD [], rest.drop 1) else (['\n'].intercalate given, rest)
  match readEdits isExtended (script.length + 1) script with
  | some edits =>
    let (text, s) := s.reading (fun path => "sed: can't read " ++ path ++ ": No such file or directory") paths
    let s := if s.status == 1 then s.ending 2 else s
    { s with output := s.output ++ edited (options.any (·.1 == 'n')) edits text }
  | none => s.complaining 1 "sed: bad script"

def grep (s : State) (arguments : List Text) : State :=
  let (options, rest) := readAllOptions ['e', 'm'] arguments
  let has (flag : Char) : Bool := options.any (·.1 == flag)
  let (expression, paths) := match options.lookup 'e' with
    | some expression => (expression, rest)
    | none => (rest.headD [], rest.drop 1)
  let folded (text : Text) : Text := if has 'i' then text.map Char.toLower else text
  let regex? := if has 'F' then
      some (Regex.ofList ((folded expression).map fun c => .item (.one c)))
    else Regex.ofText? (has 'E') (folded expression)
  match regex? with
  | none => s.complaining 2 "grep: bad expression"
  | some regex =>
    let (text, s) := s.reading (notThere "grep") paths
    let isFound (line : Text) : Bool :=
      (if has 'x' then regex.matchesWhole (folded line) else regex.isMatch (folded line)) != has 'v'
    let lines := (linesOf text).1.zipIdx.map fun (line, i) =>
      (line, if has 'n' then natText (i + 1) ++ [':'] else [])
    let found := lines.filter (isFound ·.1)
    let written :=
      if has 'q' then []
      else if has 'c' then natText found.length ++ ['\n']
      else if has 'o' then
        ofLines (found.flatMap fun (line, number) =>
          (regex.matchesIn line).map (number ++ ·)) true
      else ofLines (found.map fun (line, number) => number ++ line) true
    let isFaulty := s.status != 0
    let s := (s.writing written).succeeding (!found.isEmpty)
    if isFaulty then s.ending 2 else s

/-- Takes parts out of lines. -/
def cut (s : State) (arguments : List Text) : State :=
  let (options, paths) := readOptions ['b', 'c', 'd', 'f'] arguments
  let delimiter := ((options.lookup 'd').bind List.head?).getD '\t'
  let characters := (options.lookup 'c').or (options.lookup 'b')
  s.filtering "cut" paths fun text =>
    let cut (line : Text) : Text :=
      match characters, options.lookup 'f' with
      | some list, _ => pickRanges (numberRanges list) line
      | none, some list =>
        if line.contains delimiter then
          [delimiter].intercalate (pickRanges (numberRanges list) (line.splitOn delimiter))
        else line
      | none, none => line
    ofLines ((linesOf text).1.map cut) true

def sort (s : State) (arguments : List Text) : State :=
  let (options, paths) := readOptions ['k', 't'] arguments
  let has (flag : Char) : Bool := options.any (·.1 == flag)
  s.filtering "sort" paths fun text =>
    let lines := (linesOf text).1
    let sorted := if has 'n' then
        (sortTexts lines).mergeSort fun a b => decide (intOf a ≤ intOf b)
      else sortTexts lines
    let sorted := if has 'u' then (countRows sorted).map (·.2) else sorted
    ofLines (if has 'r' then sorted.reverse else sorted) true

/-- Drops lines that repeat the one before them. -/
def uniq (s : State) (arguments : List Text) : State :=
  let (options, paths) := readOptions [] arguments
  s.filtering "uniq" paths fun text =>
    ofLines ((countRows (linesOf text).1).map fun (n, line) =>
      if options.any (·.1 == 'c') then
        List.replicate (7 - (natText n).length) ' ' ++ natText n ++ ' ' :: line
      else line) true

/-- Writes the first lines or bytes, or all but the last ones. -/
def head (s : State) (arguments : List Text) : State :=
  let isFromEnd := arguments.any fun word => word.head? == some '-' && isInt word &&
    arguments.head? != some word
  let (kind, count, paths) := countOption (arguments.map fun word =>
    if isFromEnd && isInt word then word.drop 1 else word)
  let (text, s) := s.reading (notOpened "head") paths
  let size := if kind == 'c' then text.length else (linesOf text).1.length
  let count := if isFromEnd then size - count else count
  { s with output := s.output ++ (splitHead kind count text).1 }

/-- Writes the last lines or bytes, or all from a place on. -/
def tail (s : State) (arguments : List Text) : State :=
  let isFromStart := arguments.any fun word => word.head? == some '+'
  let (kind, count, paths) := countOption (arguments.map fun word => word.dropWhile (· == '+'))
  let (text, s) := s.reading (notOpened "tail") paths
  { s with output := s.output ++ tailPart kind count isFromStart text }

/-- The state after a tool that makes another text of what it reads, if there is one of that
name. -/
def filter? (name : String) (arguments : List Text) (s : State) : Option State :=
  match name with
  | "cat" => some (s.filtering "cat" (splitOptions arguments).2 id)
  | "wc" => some (wc s arguments)
  | "tr" => some (tr s arguments)
  | "sed" => some (sed s arguments)
  | "grep" => some (grep s arguments)
  | "head" => some (head s arguments)
  | "tail" => some (tail s arguments)
  | "cut" => some (cut s arguments)
  | "sort" => some (sort s arguments)
  | "uniq" => some (uniq s arguments)
  | "rev" => some (s.filtering "rev" arguments fun text =>
      let (lines, isEnded) := linesOf text
      ofLines (lines.map List.reverse) isEnded)
  | "tac" => some (s.filtering "tac" arguments fun text => ofLines (linesOf text).1.reverse true)
  | _ => none

end Precompiler.Shell.Tool
