import Precompiler.Shell.Syntax

/-! Regular expressions.

A match goes from left to right and tries what it could do in order: repetition takes as much
as it can and gives back as little as it must, and of two alternatives the first is tried
first. -/
namespace Precompiler.Shell

/-- A set of characters. -/
inductive Kind where
  | any
  | one (c : Char)
  | oneOf (negated : Bool) (ranges : List (Char × Char))

def Kind.has (c : Char) : Kind → Bool
  | any => true
  | one d => c == d
  | oneOf negated ranges => ranges.any (fun (low, high) => low ≤ c && c ≤ high) != negated

inductive Regex where
  | nothing
  | item (kind : Kind)
  | both (first second : Regex)
  | either (first second : Regex)
  /-- Repeated at least `low` and at most `high` times. -/
  | many (body : Regex) (low : Nat) (high : Option Nat)
  | group (n : Nat) (body : Regex)
  /-- What a group has matched. -/
  | back (n : Nat)
  | atStart
  | atEnd

/-- What the groups have matched. -/
abbrev Groups := List (Nat × Text)

/-- How far a match has come. -/
structure Spot where
  /-- The number of characters in front, of the line and of the match. -/
  before : Nat
  taken : Nat
  text : Text
  groups : Groups

def Spot.after (s : Spot) (n : Nat) (text : Text) : Spot := { s with taken := s.taken + n, text }

/-- The rests of a text after none, one, two … characters of a kind, longest taking first.
Each comes with the number of characters taken. -/
def tailsAfter (kind : Kind) : Nat → Text → List (Nat × Text) → List (Nat × Text)
  | taken, [], done => (taken, []) :: done
  | taken, c :: rest, done =>
    if kind.has c then tailsAfter kind (taken + 1) rest ((taken, c :: rest) :: done)
    else (taken, c :: rest) :: done

/-- Repeats a step of a match; a round that takes nothing is the last one. -/
def repeating (step : Spot → (Spot → Option Spot) → Option Spot) (low : Nat) (high : Option Nat)
    (goOn : Spot → Option Spot) : Nat → Nat → Spot → Option Spot
  | 0, _, _ => none
  | n + 1, count, s =>
    let again := if high.all (count < ·) then
        step s fun s' =>
          if s'.taken == s.taken then none else repeating step low high goOn n (count + 1) s'
      else none
    again.or (if low ≤ count then goOn s else none)

namespace Regex

/-- Matches an expression at a spot, and goes on from where it ends. -/
def matchAt : Regex → Spot → (Spot → Option Spot) → Option Spot
  | nothing, s, goOn => goOn s
  | item kind, s, goOn =>
    match s.text with
    | c :: rest => if kind.has c then goOn (s.after 1 rest) else none
    | [] => none
  | both first second, s, goOn => first.matchAt s fun s' => second.matchAt s' goOn
  | either first second, s, goOn => (first.matchAt s goOn).or (second.matchAt s goOn)
  | many (item kind) low high, s, goOn =>
    (tailsAfter kind 0 s.text []).findSome? fun (n, tail) =>
      if low ≤ n && high.all (n ≤ ·) then goOn (s.after n tail) else none
  | many body low high, s, goOn =>
    repeating body.matchAt low high goOn (s.text.length + low + 2) 0 s
  | group n body, s, goOn =>
    body.matchAt s fun s' =>
      goOn { s' with groups := (n, s.text.take (s'.taken - s.taken)) :: s'.groups }
  | back n, s, goOn =>
    let held := (s.groups.lookup n).getD []
    if held.isPrefixOf s.text then goOn (s.after held.length (s.text.drop held.length)) else none
  | atStart, s, goOn => if s.before + s.taken == 0 then goOn s else none
  | atEnd, s, goOn => if s.text.isEmpty then goOn s else none

/-- A match at the front of a text behind so many characters: the number of characters taken,
and the groups. -/
def matchFront (regex : Regex) (before : Nat) (text : Text) : Option (Nat × Groups) :=
  (regex.matchAt ⟨before, 0, text, []⟩ some).map fun s => (s.taken, s.groups)

def isMatch (regex : Regex) (text : Text) : Bool := go 0 text
where
  go (before : Nat) (text : Text) : Bool :=
    (regex.matchFront before text).isSome ||
      match text with
      | [] => false
      | _ :: rest => go (before + 1) rest

def matchesWhole (regex : Regex) (text : Text) : Bool :=
  ((both regex atEnd).matchFront 0 text).isSome

/-- The parts of a text that an expression matches, behind so many characters of it. -/
def matchesWithin (regex : Regex) : Nat → Nat → Text → List Text
  | 0, _, _ => []
  | n + 1, before, text =>
    match regex.matchFront before text, text with
    | some (taken, _), text =>
      if taken == 0 then
        match text with
        | [] => []
        | _ :: rest => regex.matchesWithin n (before + 1) rest
      else text.take taken :: regex.matchesWithin n (before + taken) (text.drop taken)
    | none, [] => []
    | none, _ :: rest => regex.matchesWithin n (before + 1) rest

/-- The parts of a text that an expression matches. -/
def matchesIn (regex : Regex) (text : Text) : List Text :=
  regex.matchesWithin (text.length + 1) 0 text

def ofList (parts : List Regex) : Regex := parts.foldr both nothing

end Regex

end Precompiler.Shell
