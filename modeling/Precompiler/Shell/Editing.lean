import Precompiler.Shell.Regex.Reader
import Precompiler.Shell.Lines

/-! Texts edited line by line.

An editing script is a list of instructions, each with the lines that it is meant for. Every
line goes through all of them in turn, unless one deletes it. -/
namespace Precompiler.Shell

/-- What a substitution writes for a match. -/
def replacement (matched : Text) (groups : Groups) : Nat → Text → Text
  | 0, _ => []
  | n + 1, template =>
    match template with
    | [] => []
    | '&' :: rest => matched ++ replacement matched groups n rest
    | '\\' :: c :: rest =>
      (if c.isDigit then (if c == '0' then matched else (groups.lookup (c.toNat - 48)).getD [])
        else if c == 'n' then ['\n'] else if c == 't' then ['\t'] else [c]) ++
        replacement matched groups n rest
    | c :: rest => c :: replacement matched groups n rest

/-- Which matches of a line are replaced: the one of a number, or also all that follow it. -/
structure Choice where
  first : Nat
  isGlobal : Bool

/-- A line with matches of an expression replaced. What is done comes last character first;
`count` matches have been seen, the last of them right here if `isFresh` is false. -/
def substitute (regex : Regex) (template : Text) (choice : Choice) :
    Nat → Nat → Bool → Nat → Text → Text → Text
  | 0, _, _, _, done, text => done.reverse ++ text
  | n + 1, count, isFresh, before, done, text =>
    let step (done : Text) : Text :=
      match text with
      | [] => done.reverse
      | c :: rest => substitute regex template choice n count true (before + 1) (c :: done) rest
    match regex.matchFront before text with
    | none => step done
    | some (taken, groups) =>
      if taken == 0 && !isFresh then step done
      else
        let count := count + 1
        let matched := text.take taken
        let rest := text.drop taken
        let written :=
          if count < choice.first then matched
          else replacement matched groups template.length template
        let done := written.reverse ++ done
        if count ≥ choice.first && !choice.isGlobal then done.reverse ++ rest
        else if taken == 0 then
          match rest with
          | [] => done.reverse
          | c :: rest => substitute regex template choice n count true (before + 1) (c :: done) rest
        else substitute regex template choice n count false (before + taken) done rest

inductive Edit where
  | substitute (regex : Regex) (template : Text) (choice : Choice) (isPrinted : Bool)
  | exchange (source target : Text)
  | delete
  | print
  /-- The present line is the last one. -/
  | quit

/-- A line that an instruction can be meant for. -/
inductive Address where
  | number (n : Nat)
  | last
  | matching (regex : Regex)

inductive Scope where
  | every
  | only (address : Address)
  | between (low high : Address)
  | others (scope : Scope)

/-- A text up to a delimiter that no backslash precedes, and what follows it. -/
def upTo (delimiter : Char) : Text → Option (Text × Text)
  | [] => none
  | '\\' :: c :: rest => do
    let (text, after) ← upTo delimiter rest
    return (if c == delimiter then c :: text else '\\' :: c :: text, after)
  | c :: rest =>
    if c == delimiter then some ([], rest)
    else do
      let (text, after) ← upTo delimiter rest
      return (c :: text, after)

def readEdit (isExtended : Bool) (text : Text) : Option (Edit × Text) :=
  match text with
  | 's' :: delimiter :: rest => do
    let (expression, rest) ← upTo delimiter rest
    let (template, rest) ← upTo delimiter rest
    let (flags, rest) := rest.span fun c => c == 'g' || c == 'p' || c.isDigit
    let regex ← Regex.ofText? isExtended expression
    let number := (intOf (flags.filter Char.isDigit)).toNat
    return (.substitute regex template ⟨max number 1, flags.contains 'g'⟩ (flags.contains 'p'), rest)
  | 'y' :: delimiter :: rest => do
    let (source, rest) ← upTo delimiter rest
    let (target, rest) ← upTo delimiter rest
    return (.exchange source target, rest)
  | 'd' :: rest => some (.delete, rest)
  | 'p' :: rest => some (.print, rest)
  | 'q' :: rest => some (.quit, rest)
  | _ => none

def readAddress (isExtended : Bool) (text : Text) : Option (Option Address × Text) :=
  match text with
  | '$' :: rest => some (some .last, rest)
  | '/' :: rest => do
    let (expression, rest) ← upTo '/' rest
    return (some (.matching (← Regex.ofText? isExtended expression)), rest)
  | text =>
    let (digits, rest) := text.span Char.isDigit
    some (if digits.isEmpty then none else some (.number (intOf digits).toNat), rest)

def readScope (isExtended : Bool) (text : Text) : Option (Scope × Text) := do
  let (low, text) ← readAddress isExtended text
  let (scope, text) ← match low, text with
    | none, text => some (Scope.every, text)
    | some low, ',' :: rest => do
      let (high, rest) ← readAddress isExtended rest
      return (.between low (← high), rest)
    | some low, text => some (.only low, text)
  match text.dropWhile isBlank with
  | '!' :: rest => return (.others scope, rest)
  | rest => return (scope, rest)

def readEdits (isExtended : Bool) : Nat → Text → Option (List (Scope × Edit))
  | 0, _ => none
  | n + 1, text =>
    match text.dropWhile fun c => isBlank c || c == ';' || c == '\n' with
    | [] => some []
    | text => do
      let (scope, text) ← readScope isExtended text
      let (edit, text) ← readEdit isExtended (text.dropWhile isBlank)
      return (scope, edit) :: (← readEdits isExtended n text)

/-- A line under edit. -/
structure Editing where
  number : Nat
  isLast : Bool
  /-- The text of the line, unless it was deleted. -/
  line : Option Text
  /-- The lines printed so far. -/
  printed : List Text
  isOver : Bool

def Editing.isAt (e : Editing) (line : Text) : Address → Bool
  | .number n => n == e.number
  | .last => e.isLast
  | .matching regex => regex.isMatch line

/-- Whether a line lies in a scope, and whether a range of lines is open behind it. -/
def Editing.isIn (e : Editing) (line : Text) (isOpen : Bool) : Scope → Bool × Bool
  | .every => (true, false)
  | .only address => (e.isAt line address, false)
  | .between low high =>
    if isOpen then
      match high with
      | .number n => (e.number ≤ n, e.number < n)
      | high => (true, !e.isAt line high)
    else if e.isAt line low then
      match high with
      | .number n => (true, e.number < n)
      | .last => (true, !e.isLast)
      | .matching _ => (true, true)
    else (false, false)
  | .others scope =>
    let (isIn, isOpen) := e.isIn line isOpen scope
    (!isIn, isOpen)

def Editing.obey (e : Editing) (line : Text) : Edit → Editing
  | .delete => { e with line := none }
  | .print => { e with printed := e.printed ++ [line] }
  | .quit => { e with isOver := true }
  | .exchange source target =>
    { e with line := some (line.map fun c =>
        match source.zipIdx.lookup c with
        | some i => (target[i]?).getD c
        | none => c) }
  | .substitute regex template choice isPrinted =>
    let changed := Shell.substitute regex template choice (line.length + 1) 0 true 0 [] line
    { e with
      line := some changed
      printed := if isPrinted && changed != line then e.printed ++ [changed] else e.printed }

/-- A line edited by instructions, each with whether its range of lines is open. -/
def editLine : Editing → List ((Scope × Edit) × Bool) → Editing × List Bool
  | e, [] => (e, [])
  | e, ((scope, edit), isOpen) :: rest =>
    match e.line, e.isOver with
    | some line, false =>
      let (isIn, isOpen) := e.isIn line isOpen scope
      let (e, others) := editLine (if isIn then e.obey line edit else e) rest
      (e, isOpen :: others)
    | _, _ =>
      let (e, others) := editLine e rest
      (e, isOpen :: others)

/-- What editing the lines from a number on writes. -/
def editLines (isQuiet : Bool) (edits : List (Scope × Edit)) : List Bool → Nat → List Text → List Text
  | _, _, [] => []
  | isOpen, number, line :: rest =>
    let (e, isOpen) := editLine ⟨number, rest.isEmpty, some line, [], false⟩ (edits.zip isOpen)
    let written := e.printed ++ (if isQuiet then [] else e.line.toList)
    if e.isOver then written else written ++ editLines isQuiet edits isOpen (number + 1) rest

/-- A text edited line by line. A quiet script writes only what it prints. -/
def edited (isQuiet : Bool) (edits : List (Scope × Edit)) (text : Text) : Text :=
  let (lines, isEnded) := linesOf text
  ofLines (editLines isQuiet edits (edits.map fun _ => false) 1 lines) isEnded

end Precompiler.Shell
